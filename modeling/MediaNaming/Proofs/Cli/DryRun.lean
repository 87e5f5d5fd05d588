import MediaNaming.Cli.Command
import MediaNaming.Proofs.Cli.Requests
import MediaNaming.Proofs.Log.Opening
import MediaNaming.Proofs.Rename.Repetition
/-!
# Dry runs

A run comes to its plan in one way, whether the plan is to be applied or not: what is to be done
with it is asked only after it has been shown. Up to there, nothing but the log is changed.
-/

namespace MediaNaming

namespace Cli

variable {c : Context} {r : Request} {w x : World} {α β γ : Type}

/-! ## Stages -/

namespace Stage

theorem andThen_assoc (s : Stage α) (f : World → α → Stage β) (g : World → β → Stage γ) :
    (s.andThen f).andThen g = s.andThen fun w a => (f w a).andThen g := by
  obtain ⟨outcome, world, logs, output⟩ := s
  cases outcome with
  | error failure => rfl
  | ok a =>
      cases reached : (f world a).outcome with
      | error failure => simp [andThen, reached]
      | ok b => simp [andThen, reached, List.append_assoc]

theorem ok_andThen (w : World) (a : α) (f : World → α → Stage β) :
    (Stage.ok w a).andThen f = f w a := rfl

/-- What both parts of a stage keep of a world, the stage keeps. -/
theorem andThen_world {P : World → Prop} {s : Stage α} {f : World → α → Stage β}
    (first : P s.world) (next : ∀ a, s.outcome = .ok a → P (f s.world a).world) :
    P (s.andThen f).world := by
  rw [andThen]
  split
  next => exact first
  next a reached => exact next a reached

/-- Behind a stage that gives a value comes what goes on from there. -/
theorem andThen_of_ok {s : Stage α} {a : α} (reached : s.outcome = .ok a)
    (f : World → α → Stage β) :
    (s.andThen f).outcome = (f s.world a).outcome ∧
      (s.andThen f).world = (f s.world a).world := by
  rw [andThen, reached]
  exact ⟨rfl, rfl⟩

theorem printing_world (w : World) (a : α) (lines : Except Failure (List String)) :
    (Stage.printing w a lines).world = w := by
  cases lines <;> rfl

end Stage

/-! ## The log of a run -/

/-- The path of the log file of a run. -/
def logTarget? (c : Context) (w : World) : Except Failure Path :=
  (loadSettings c w).outcome.bind fun s =>
    Log.Handlers.target? c.surroundings w.volume (logSetting c s)

/-- The log that a run writes to, with the tree in which it has been opened. If the settings cannot
be loaded, it is the one that is open already. -/
def opening (c : Context) (w : World) : Log.Installation :=
  match (loadSettings c w).outcome with
  | .error f => ⟨w.handlers, w.volume, some f⟩
  | .ok s => Log.Handlers.install c.surroundings w.volume (logSetting c s) .info .debug

/-- A run that has come to its paths has done nothing but open its log. -/
theorem prepare_world (c : Context) (r : Request) (w : World) :
    (prepare c r w).world.volume = (opening c w).volume ∧
      (prepare c r w).world.handlers.file = (opening c w).handlers.file := by
  cases loaded : (loadSettings c w).outcome with
  | error f =>
      rw [prepare, opening, loaded, Stage.andThen, loaded]
      exact ⟨rfl, rfl⟩
  | ok settings =>
      have installed : (prepare c r w).world =
          (installLog c r (loadSettings c w).world settings).world := by
        rw [prepare, (Stage.andThen_of_ok loaded _).2]
        exact Stage.andThen_world (P := fun x => x = _) rfl fun _ _ => rfl
      have setup : (installLog c r (loadSettings c w).world settings).world.volume =
            (Log.Handlers.install c.surroundings w.volume (logSetting c settings) r.level
              .debug).volume ∧
          (installLog c r (loadSettings c w).world settings).world.handlers.file =
            (Log.Handlers.install c.surroundings w.volume (logSetting c settings) r.level
              .debug).handlers.file := by
        simp only [installLog]
        split <;> exact ⟨rfl, rfl⟩
      have same := Log.Handlers.install_console c.surroundings w.volume (logSetting c settings)
        r.level .info .debug
      rw [opening, loaded, installed, setup.1, setup.2]
      exact same

section

variable {f : Log.LogFile} {l : Location} {entry : Entry}
  (working : c.surroundings.cwd.IsWorkingDirectory)

include working

/-- The tree is as it was, or the log file that the settings name has been opened in it. -/
theorem opening_cases :
    (opening c w).volume = w.volume ∧
        (∀ f, (opening c w).handlers.file = some f → w.handlers.file = some f) ∨
      ∃ p, logTarget? c w = .ok p ∧
        Log.Handlers.Opened c.surroundings w.volume p (opening c w) := by
  cases loaded : (loadSettings c w).outcome with
  | error f =>
      rw [opening, loaded]
      exact Or.inl ⟨rfl, fun _ there => there⟩
  | ok settings =>
      rw [opening, logTarget?, loaded]
      rcases Log.Handlers.install_cases working with ⟨same, none⟩ | opened
      · refine Or.inl ⟨same, ?_⟩
        intro f there
        rw [none] at there
        cases there
      · exact Or.inr opened

theorem opening_kept (there : w.volume.entry? l = some entry) :
    (opening c w).volume.entry? l = some entry := by
  rcases opening_cases working with ⟨same, -⟩ | ⟨p, -, opened⟩
  · rw [same]
    exact there
  · exact opened.grown.kept l entry there

theorem opening_octets {id : Nat} (recorded : id ∈ w.volume.contents.map Prod.fst) :
    id ∈ (opening c w).volume.contents.map Prod.fst ∧
      (opening c w).volume.content id = w.volume.content id := by
  rcases opening_cases working with ⟨same, -⟩ | ⟨p, -, opened⟩
  · rw [same]
    exact ⟨recorded, rfl⟩
  · exact opened.grown.octets id recorded

/-- What is new in the tree is the log file, or a directory above it. -/
theorem opening_added (there : (opening c w).volume.entry? l = some entry) :
    w.volume.entry? l = some entry ∨
      (∃ f, (opening c w).handlers.file = some f ∧ f.place.location = l) ∨
      entry = .directory ∧ ∃ p count, logTarget? c w = .ok p ∧
        (opening c w).volume.find .followed c.surroundings.cwd (p.upTo count) = .ok l := by
  rcases opening_cases working with ⟨same, -⟩ | ⟨p, target, opened⟩
  · rw [same] at there
    exact Or.inl there
  · rcases opened.grown.added l entry there with old | onTheWay
    · exact Or.inl old
    · cases entry with
      | directory =>
          obtain ⟨count, found⟩ := onTheWay
          exact Or.inr (Or.inr ⟨rfl, p, count, target, found⟩)
      | file id =>
          rcases opened.placed l id there with old | placed
          · exact Or.inl old
          · exact Or.inr (Or.inl placed)
      | link target => exact onTheWay.elim

theorem opening_sound (sound : ∀ f, w.handlers.file = some f → f.IsSound w.volume)
    (there : (opening c w).handlers.file = some f) : f.IsSound (opening c w).volume := by
  rcases opening_cases working with ⟨same, old⟩ | ⟨p, -, opened⟩
  · rw [same]
    exact sound f (old f there)
  · exact opened.sound working there

theorem opening_named (there : (opening c w).handlers.file = some f) :
    w.handlers.file = some f ∨ logTarget? c w = .ok f.path ∧
      (opening c w).volume.find .followed c.surroundings.cwd f.path = .ok f.place.location := by
  rcases opening_cases working with ⟨-, old⟩ | ⟨p, target, opened⟩
  · exact Or.inl (old f there)
  · obtain ⟨rfl, found, -⟩ := opened.named f there
    exact Or.inr ⟨target, found⟩

end

/-! ## Harmless runs -/

/-- Whether a location is one that the log of a run may change: the place of the log file and, if
the records may fill that file, the places of those that have been put away. -/
def LogPlace (c : Context) (w : World) (logs : List Log.Record) (l : Location) : Prop :=
  ∃ f, (opening c w).handlers.file = some f ∧
    (f.place.location <:+ l ∨
      Log.LogFile.sizeLimit ≤ f.size (opening c w).volume + Log.Handlers.weight c.stamp logs ∧
        f.Covers l)

/-- What a run may do to a tree if it renames nothing: it opens its log, making the directories
above the file, and writes its records there. -/
structure Harmless (c : Context) (w : World) (e : Ending) : Prop where
  kept : ∀ l entry, ¬LogPlace c w e.logs l → w.volume.entry? l = some entry →
    e.world.volume.entry? l = some entry
  octets : ∀ l id, w.volume.entry? l = some (.file id) →
    (∀ f, (opening c w).handlers.file = some f → ¬f.Owns (opening c w).volume id) →
    e.world.volume.content id = w.volume.content id
  added : ∀ l entry, ¬LogPlace c w e.logs l → e.world.volume.entry? l = some entry →
    w.volume.entry? l = some entry ∨
      entry = .directory ∧ ∃ p count, logTarget? c w = .ok p ∧
        (opening c w).volume.find .followed c.surroundings.cwd (p.upTo count) = .ok l
  /-- The log file is the one that was open before, or is found where the settings say. -/
  opened : ∀ f, (opening c w).handlers.file = some f → w.handlers.file = some f ∨
    logTarget? c w = .ok f.path ∧
      (opening c w).volume.find .followed c.surroundings.cwd f.path = .ok f.place.location

/-- Opening the log and writing records there does no harm. -/
theorem Harmless.of_write {e : Ending} {rs : List Log.Record}
    (working : c.surroundings.cwd.IsWorkingDirectory) (recorded : w.volume.Recorded)
    (sound : ∀ f, w.handlers.file = some f → f.IsSound w.volume)
    (volume : x.volume = (opening c w).volume)
    (file : x.handlers.file = (opening c w).handlers.file) (among : rs <:+ e.logs)
    (written : e.world.volume = (x.handlers.write x.volume c.stamp rs).2) : Harmless c w e := by
  rw [volume] at written
  have entries : ∀ l, ¬LogPlace c w e.logs l →
      e.world.volume.entry? l = (opening c w).volume.entry? l := by
    intro l outside
    rw [written]
    cases there : (opening c w).handlers.file with
    | none => rw [Log.Handlers.write_of_none (file.trans there)]
    | some f =>
        have ready := opening_sound working sound there
        by_cases room : f.size (opening c w).volume + Log.Handlers.weight c.stamp e.logs <
            Log.LogFile.sizeLimit
        · have fewer := Log.Handlers.weight_le_of_suffix among c.stamp
          apply Log.Handlers.write_short (file.trans there) ready (by omega)
          rintro rfl
          exact outside ⟨f, there, Or.inl List.suffix_rfl⟩
        · obtain ⟨g, -, confined⟩ :=
            Log.Handlers.write_confined (file.trans there) ready c.stamp rs
          apply confined.entries
          intro covered
          exact outside ⟨f, there, Or.inr ⟨Nat.not_lt.mp room, covered⟩⟩
  have octets : ∀ id, id ∈ (opening c w).volume.contents.map Prod.fst →
      (∀ f, (opening c w).handlers.file = some f → ¬f.Owns (opening c w).volume id) →
      e.world.volume.content id = (opening c w).volume.content id := by
    intro id recorded foreign
    rw [written]
    cases there : (opening c w).handlers.file with
    | none => rw [Log.Handlers.write_of_none (file.trans there)]
    | some f =>
        have ready := opening_sound working sound there
        obtain ⟨g, -, confined⟩ :=
            Log.Handlers.write_confined (file.trans there) ready c.stamp rs
        exact (confined.octets id recorded (foreign f there)).2.1
  constructor
  · intro l entry outside there
    rw [entries l outside]
    exact opening_kept working there
  · intro l id there foreign
    obtain ⟨still, same⟩ := opening_octets working (recorded.of_entry there)
    rw [octets id still foreign, same]
  · intro l entry outside there
    rw [entries l outside] at there
    rcases opening_added working there with old | ⟨f, opened, rfl⟩ | onTheWay
    · exact Or.inl old
    · exact absurd ⟨f, opened, Or.inl List.suffix_rfl⟩ outside
    · exact Or.inr onTheWay
  · exact fun f there => opening_named working there

/-! ## Plans -/

/-- The part of a run that comes to a plan: the paths it is for, the plan itself and the files
that are left out. -/
def draft (c : Context) (r : Request) (w : World) : Stage (List Path × Planning) :=
  (prepare c r w).andThen fun w (settings, paths) =>
    ((Stage.ofTraced w (buildRenamer c r settings)).written c).andThen fun w renamer =>
      ((Stage.ofTraced w (schemeArgument r)).written c).andThen fun w scheme =>
        .ok w (paths, (renamer.generate c.disk c.lookup c.room (volumeForPlan c paths w)
          (.list (paths.map .path)) scheme).1)

/-- Shows a plan and the files left out. -/
def showPlan (c : Context) (r : Request) (planning : Planning) (w : World) : Stage Entries :=
  ((Stage.ofTraced w ⟨planning.outcome, planning.logs⟩).andThen fun w plan =>
    .printing w plan.entries
      (if r.quiet then .ok []
      else Display.planLines plan.entries planning.skipped r.dryRun)).written c

/-- Applies a plan. -/
def applyPlan (c : Context) (entries : Entries) (w : World) : Stage (List Outcome) :=
  let applied := Rename.executeEntries c.disk w.volume entries
  (⟨applied.outcome, { w with volume := applied.volume }, applied.logs, []⟩ : Stage _).written c

/-- A run that shows its plan and hands it over to be applied. -/
def applying (c : Context) (r : Request) (w : World) : Stage Bool :=
  (draft c r w).andThen fun w (paths, planning) =>
    (showPlan c r planning w).andThen fun w entries =>
      (applyPlan c entries w).andThen fun w outcomes =>
        summaryStage r paths entries (some outcomes) w

/-- A run that shows its plan and ends. -/
def previewing (c : Context) (r : Request) (w : World) : Stage Bool :=
  (draft c r w).andThen fun w (paths, planning) =>
    (showPlan c { r with dryRun := true } planning w).andThen fun w entries =>
      ((Stage.ok w ()).written c).andThen fun w _ =>
        summaryStage r paths entries none w

/-- A run shows its plan before it asks whether the plan is to be applied. -/
theorem carryOut_eq (c : Context) (r : Request) (w : World) :
    carryOut c r w = (draft c r w).andThen fun w (paths, planning) =>
      (showPlan c r planning w).andThen fun w entries =>
        ((renameStage c r entries w).written c).andThen fun w outcomes =>
          summaryStage r paths entries outcomes w := by
  rw [draft, Stage.andThen_assoc, carryOut]
  congr 1
  funext w ⟨settings, paths⟩
  dsimp only
  rw [Stage.andThen_assoc]
  congr 1
  funext w renamer
  rw [Stage.andThen_assoc]
  rfl

theorem carryOut_wet (c : Context) (w : World) (wet : r.dryRun = false) :
    carryOut c r w = applying c r w := by
  rw [carryOut_eq, applying]
  congr 1
  funext w ⟨paths, planning⟩
  dsimp only
  congr 1
  funext w entries
  rw [renameStage, wet, applyPlan]
  generalize Rename.executeEntries c.disk w.volume entries = applied
  obtain ⟨outcome, volume, logs⟩ := applied
  cases outcome <;> rfl

theorem carryOut_dry (c : Context) (w : World) (dry : r.dryRun = true) :
    carryOut c r w = previewing c r w := by
  obtain ⟨command, paths, scheme, substitute, dryRun, verbose, quiet⟩ := r
  cases dry
  rw [carryOut_eq, previewing]
  rfl

/-! ## Runs that only write records -/

/-- Whether a stage does nothing to a world but write its records. -/
def WritesOnly (c : Context) (w : World) (s : Stage α) : Prop :=
  (s.world.handlers, s.world.volume) = w.handlers.write w.volume c.stamp s.logs

theorem writesOnly_ok (c : Context) (w : World) (a : α) : WritesOnly c w (Stage.ok w a) := by
  simp [WritesOnly, Stage.ok]

theorem writesOnly_written {s : Stage α} (same : s.world = w) : WritesOnly c w (s.written c) := by
  rw [WritesOnly, ← same]
  rfl

theorem WritesOnly.andThen {s : Stage α} {f : World → α → Stage β} (first : WritesOnly c w s)
    (next : ∀ a, WritesOnly c s.world (f s.world a)) : WritesOnly c w (s.andThen f) := by
  rw [Stage.andThen]
  split
  next => exact first
  next a _ =>
    have second := next a
    simp only [WritesOnly] at first second ⊢
    rw [second, Log.Handlers.write_append, ← first]

theorem showPlan_writesOnly (c : Context) (r : Request) (planning : Planning) (w : World) :
    WritesOnly c w (showPlan c r planning w) := by
  apply writesOnly_written
  exact Stage.andThen_world (P := fun x => x = w) rfl fun _ _ => Stage.printing_world _ _ _

theorem summaryStage_writesOnly (c : Context) (r : Request) (paths : List Path)
    (entries : Entries) (outcomes : Option (List Outcome)) (w : World) :
    WritesOnly c w (summaryStage r paths entries outcomes w) := by
  simp only [summaryStage, Stage.printing]
  split <;> simp [WritesOnly]

/-- A stage with another behind it that only writes its records. -/
theorem andThen_writes {s : Stage α} {f : World → α → Stage β}
    (next : ∀ a, WritesOnly c s.world (f s.world a)) :
    ∃ rs, (s.andThen f).logs = s.logs ++ rs ∧
      ((s.andThen f).world.handlers, (s.andThen f).world.volume) =
        s.world.handlers.write s.world.volume c.stamp rs := by
  rw [Stage.andThen]
  split
  next => exact ⟨[], by simp⟩
  next a _ => exact ⟨_, rfl, next a⟩

/-- Showing a plan and ending only writes records, once the paths are known. -/
theorem previewing_writes (c : Context) (r : Request) (w : World) :
    ∃ rs, (previewing c r w).logs = (prepare c r w).logs ++ rs ∧
      ((previewing c r w).world.handlers, (previewing c r w).world.volume) =
        (prepare c r w).world.handlers.write (prepare c r w).world.volume c.stamp rs := by
  rw [previewing, draft, Stage.andThen_assoc]
  apply andThen_writes
  intro (settings, paths)
  apply WritesOnly.andThen
  · apply (writesOnly_written rfl).andThen
    intro renamer
    apply (writesOnly_written rfl).andThen
    intro scheme
    exact writesOnly_ok _ _ _
  · intro (paths, planning)
    apply (showPlan_writesOnly _ _ _ _).andThen
    intro entries
    apply (writesOnly_written rfl).andThen
    intro _
    exact summaryStage_writesOnly _ _ _ _ _ _

/-- Ending a run writes at most the record of a failure. -/
theorem finish_writes (c : Context) (s : Stage Bool) :
    ∃ rs, (finish c s).logs = s.logs ++ rs ∧
      ((finish c s).world.handlers, (finish c s).world.volume) =
        s.world.handlers.write s.world.volume c.stamp rs := by
  rw [finish]
  split
  next => exact ⟨[], by simp⟩
  next f _ => exact ⟨[(failureReport f).2], rfl, rfl⟩

/-- A dry run opens its log, and from then on only writes records. -/
theorem run_dry_writes (c : Context) (w : World) (dry : r.dryRun = true) :
    ∃ rs, (run c r w).logs = (prepare c r w).logs ++ rs ∧
      (run c r w).world.volume =
        ((prepare c r w).world.handlers.write (prepare c r w).world.volume c.stamp rs).2 := by
  rw [run, carryOut_dry c w dry]
  obtain ⟨rs, logs, written⟩ := previewing_writes c r w
  obtain ⟨last, lastLogs, lastWritten⟩ := finish_writes c (previewing c r w)
  refine ⟨rs ++ last, ?_, ?_⟩
  · rw [lastLogs, logs, List.append_assoc]
  · rw [Log.Handlers.write_append, ← written, ← lastWritten]

theorem Harmless.run (working : c.surroundings.cwd.IsWorkingDirectory)
    (recorded : w.volume.Recorded)
    (sound : ∀ f, w.handlers.file = some f → f.IsSound w.volume) (dry : r.dryRun = true) :
    Harmless c w (run c r w) := by
  obtain ⟨rs, logs, written⟩ := run_dry_writes c w dry
  obtain ⟨volume, file⟩ := prepare_world c r w
  exact .of_write working recorded sound volume file ⟨_, logs.symm⟩ written

/-! ## The two commands -/

/-- A context at the root that finds no metadata, with the log next to the files. -/
def rootContext : Context where
  surroundings := ⟨⟨.root, []⟩, ⟨⟨.root, []⟩, []⟩, ⟨.root, ["program"]⟩, none, ⟨.root, ["log"]⟩⟩
  disk := Disk.direct ⟨.root, []⟩
  lookup _ _ := .ok []
  room := 1000
  stamp := ""
  listened := false

/-- A photo and an empty log, with the default settings. -/
def photoWorld : World :=
  ⟨⟨[(["a"], .file 0), (["log"], .file 1)], [(0, [97]), (1, [])]⟩,
    ⟨some ⟨Settings.default, ⟨.root, ["config.toml"]⟩, 0⟩, 1⟩, .standard⟩

/-- The log file at the root. -/
def rootLog : Log.LogFile :=
  ⟨⟨.root, ["log"]⟩, ⟨[], "log"⟩, some 1, .debug⟩

/-- A world in which a quiet run has opened the log at the root. -/
def logOpened (w : World) : World :=
  ⟨w.volume.setContent 1 (w.volume.content 1), w.cache, ⟨.error, some rootLog⟩⟩

theorem installLog_root {s : Settings} (there : w.volume.entry? ["log"] = some (.file 1))
    (quiet : r.quiet = true) (standard : s.logFile.isTruthy = false) :
    installLog rootContext r w s = .ok (logOpened w) () := by
  have opened : Log.Handlers.install rootContext.surroundings w.volume
      (.path ⟨.root, ["log"]⟩) .error .debug =
      ⟨(logOpened w).handlers, (logOpened w).volume, none⟩ :=
    Log.Handlers.install_root (by decide) (by decide) rfl there
  have file : logSetting rootContext s = .path ⟨.root, ["log"]⟩ := by
    rw [logSetting, standard]
    rfl
  have level : r.level = .error := by rw [Request.level, if_pos quiet]
  simp only [installLog, file, level, opened]
  rfl

/-! ## The switch behind two hyphens -/

/-- A world with the log open at the root. -/
def LogAtRoot (x : World) : Prop :=
  ∃ f, x.handlers.file = some f ∧ f.place = ⟨[], "log"⟩ ∧ f.IsSound x.volume

/-- The names of the log and of what has been put away start alike. -/
theorem take_of_covers {f : Log.LogFile} {name : String} (place : f.place = ⟨[], "log"⟩)
    (covered : f.Covers [name]) : name.toList.take 3 = ['l', 'o', 'g'] := by
  obtain ⟨n, -, below⟩ := covered
  have same : (f.backup n).name = name := by
    have equal := below.eq_of_length (by cases n <;> simp [Log.LogFile.backup, place,
      Volume.Spot.location])
    exact (List.cons.inj equal).1
  rw [← same]
  cases n <;> simp [Log.LogFile.backup, place, String.toList_append]

/-- Writing the records of a stage leaves the log at the root, and what other names name. -/
theorem LogAtRoot.written {s : Stage α} (atRoot : LogAtRoot s.world) (c : Context) :
    LogAtRoot (s.written c).world ∧ ∀ name : String, name.toList.take 3 ≠ ['l', 'o', 'g'] →
      (s.written c).world.volume.entry? [name] = s.world.volume.entry? [name] := by
  obtain ⟨f, opened, place, sound⟩ := atRoot
  obtain ⟨g, still, confined⟩ :=
    Log.Handlers.write_confined opened sound c.stamp s.logs
  refine ⟨⟨g, still, confined.place.trans place, confined.sound sound⟩, ?_⟩
  intro name other
  exact confined.entries [name] fun covered => other (take_of_covers place covered)

/-- A world with the photo and the log at the root, where nothing has two other names. -/
structure PhotoReady (x : World) : Prop where
  photo : x.volume.entry? ["a"] = some (.file 0)
  free : x.volume.entry? ["b"] = none
  noSwitch : x.volume.entry? ["--dry-run"] = none
  log : LogAtRoot x

theorem PhotoReady.written {s : Stage α} (ready : PhotoReady s.world) (c : Context) :
    PhotoReady (s.written c).world := by
  obtain ⟨still, same⟩ := ready.log.written c
  constructor
  · rw [same "a" (by decide)]
    exact ready.photo
  · rw [same "b" (by decide)]
    exact ready.free
  · rw [same "--dry-run" (by decide)]
    exact ready.noSwitch
  · exact still

theorem PhotoReady.traced (ready : PhotoReady x) (t : Log.Traced α) (c : Context) :
    PhotoReady ((Stage.ofTraced x t).written c).world :=
  PhotoReady.written (s := Stage.ofTraced x t) ready c

/-- The tree in which a plan is made is ready too. -/
theorem PhotoReady.volumeForPlan (ready : PhotoReady x) (c : Context) (paths : List Path) :
    Volume.entry? (volumeForPlan c paths x) ["a"] = some (.file 0) ∧
      Volume.entry? (volumeForPlan c paths x) ["--dry-run"] = none := by
  let start : Stage Unit := ⟨.ok (), x, [Planner.startRecord paths.length], []⟩
  have begun : PhotoReady (start.written c).world := PhotoReady.written (s := start) ready c
  exact ⟨begun.photo, begun.noSwitch⟩

/-- What is read of a command line that gives the photo a name, with further paths behind it. -/
def photoRequest (more : List String) : Request :=
  ⟨.rename, "/a" :: more, some (.text "b"), none, false, false, true⟩

/-- What is read if the switch stands behind two hyphens. -/
def hyphensRequest : Request :=
  photoRequest ["--dry-run"]

/-- The renamer of a run with the default settings. -/
def defaultRenamer : Renamer :=
  ⟨[.literal "Renamed-default-"], Substitute.default, []⟩

theorem hyphens_read :
    Request.read ("rename" :: (["--quiet", "--scheme", "b", "--", "/a"] ++ ["--dry-run"])) =
      .ok hyphensRequest := rfl

theorem photoWorld_ready : PhotoReady (logOpened photoWorld) where
  photo := rfl
  free := rfl
  noSwitch := rfl
  log := ⟨_, rfl, rfl, by simp [rootLog, Volume.OwnName], nofun⟩

section

variable {u : Volume}

theorem photo_find (photo : u.entry? ["a"] = some (.file 0)) :
    u.find .followed ⟨.root, []⟩ ⟨.root, ["a"]⟩ = .ok ["a"] :=
  Volume.find_root_file (by decide) (by decide) photo

/-- No file has the name of the switch. -/
theorem switch_find (noSwitch : u.entry? ["--dry-run"] = none) :
    u.find .followed ⟨.root, []⟩ ⟨.relative, ["--dry-run"]⟩ = .error (.code .missing) := by
  have walked : u.walk .followed Volume.linkLimit [] ["--dry-run"] = .ok ["--dry-run"] :=
    Volume.walk_name (by decide) (by decide) (Volume.entry?_root u) (by simp [noSwitch])
  exact Volume.find_of_walk_absent (by decide) (by decide) walked noSwitch

theorem photo_expanded (photo : u.entry? ["a"] = some (.file 0)) :
    expandPaths u ⟨.root, []⟩ ["/a"] = .ok [⟨.root, ["a"]⟩] := by
  have named : Path.ofText "/a" = ⟨.root, ["a"]⟩ := by decide
  simp [expandPaths, named, Volume.isDirectory?, Volume.ask, Volume.look, photo_find photo, photo]
  rfl

theorem hyphens_expanded (photo : u.entry? ["a"] = some (.file 0))
    (noSwitch : u.entry? ["--dry-run"] = none) :
    expandPaths u ⟨.root, []⟩ ["/a", "--dry-run"] =
      .ok [⟨.root, ["a"]⟩, ⟨.relative, ["--dry-run"]⟩] := by
  have named : Path.ofText "/a" = ⟨.root, ["a"]⟩ := by decide
  have switch : Path.ofText "--dry-run" = ⟨.relative, ["--dry-run"]⟩ := by decide
  simp [expandPaths, named, switch, Volume.isDirectory?, Volume.ask, Volume.look,
    photo_find photo, switch_find noSwitch, photo, Volume.Refusal.isAbsence]
  rfl

/-- Applying the plan renames the photo. -/
theorem photo_renamed (photo : u.entry? ["a"] = some (.file 0)) (free : u.entry? ["b"] = none) :
    ∃ o, (Rename.executeEntries rootContext.disk u
        [(.path ⟨.root, ["a"]⟩, .text "b")]).outcome = .ok [o] ∧ o.isRenamed = true ∧
      (Rename.executeEntries rootContext.disk u
        [(.path ⟨.root, ["a"]⟩, .text "b")]).volume = u.move ["a"] ["b"] := by
  have moved : u.moveTo ⟨[], "a"⟩ ⟨[], "b"⟩ = .ok (u.move ["a"] ["b"]) :=
    Volume.moveTo_of_file photo free (by decide) (by decide)
  have renamed := Rename.renamePair_root (by decide) (by decide) (by decide) (by decide)
    (by decide) photo free moved
  obtain ⟨outcome, volume⟩ := Rename.execute_single renamed
  exact ⟨_, outcome, rfl, volume⟩

/-- The photo is planned under the name that was asked for. -/
theorem photo_resolved (photo : u.entry? ["a"] = some (.file 0)) :
    ((defaultRenamer.planner rootContext.disk rootContext.lookup rootContext.room).resolve u
      [.literal "b"] (.path ⟨.root, ["a"]⟩)).outcome =
      .ok (.named (.path ⟨.root, ["a"]⟩) "b") := by
  have how : Planner.Resolved
      (defaultRenamer.planner rootContext.disk rootContext.lookup rootContext.room) u
      [.literal "b"] (.path ⟨.root, ["a"]⟩) ⟨.root, ["a"]⟩ [] "b" := {
    source := rfl
    isFile := congrArg Except.ok (Volume.isFile_of_find (photo_find photo) photo)
    found := rfl
    filled := ⟨"b", rfl, by decide +kernel⟩ }
  exact how.outcome (by decide)

/-- The plan names the photo. -/
theorem photo_planned (photo : u.entry? ["a"] = some (.file 0)) :
    let planning := (defaultRenamer.planner rootContext.disk rootContext.lookup
      rootContext.room).plan u [.literal "b"] (.list [.path ⟨.root, ["a"]⟩])
    planning.outcome = .ok ⟨[(.path ⟨.root, ["a"]⟩, .text "b")], true⟩ ∧
      planning.skipped = [] := by
  simp only [Planner.plan, Planner.planAll, Planner.sweep, photo_resolved photo]
  exact ⟨rfl, rfl⟩

/-- The plan names the photo and leaves the switch out. -/
theorem hyphens_planned (photo : u.entry? ["a"] = some (.file 0))
    (noSwitch : u.entry? ["--dry-run"] = none) :
    ((defaultRenamer.planner rootContext.disk rootContext.lookup rootContext.room).plan u
      [.literal "b"]
      (.list [.path ⟨.root, ["a"]⟩, .path ⟨.relative, ["--dry-run"]⟩])).outcome =
      .ok ⟨[(.path ⟨.root, ["a"]⟩, .text "b")], true⟩ := by
  have noFile : u.isFile ⟨.root, []⟩ ⟨.relative, ["--dry-run"]⟩ = false := by
    simp [Volume.isFile, Volume.look, switch_find noSwitch]
  have skipped : ∃ s, ((defaultRenamer.planner rootContext.disk rootContext.lookup
      rootContext.room).resolve u [.literal "b"]
      (.path ⟨.relative, ["--dry-run"]⟩)).outcome = .ok (.skipped s) := by
    refine ⟨⟨.path ⟨.relative, ["--dry-run"]⟩, .fileNotValid, "could not access file", none⟩, ?_⟩
    have asked : (defaultRenamer.planner rootContext.disk rootContext.lookup
        rootContext.room).disk.isFile u ⟨.relative, ["--dry-run"]⟩ = .ok false :=
      congrArg Except.ok noFile
    simp only [Planner.resolve, Value.filePath?]
    rw [Log.Traced.ofExcept_bind_outcome _ asked]
    rfl
  obtain ⟨s, skipped⟩ := skipped
  simp only [Planner.plan, Planner.planAll, Planner.sweep, photo_resolved photo, skipped]
  rfl

end

theorem photo_prepared {more : List String} {paths : List Path}
    (expanded : expandPaths (logOpened photoWorld).volume ⟨.root, []⟩ ("/a" :: more) = .ok paths) :
    (prepare rootContext (photoRequest more) photoWorld).outcome = .ok (Settings.default, paths) ∧
      (prepare rootContext (photoRequest more) photoWorld).world = logOpened photoWorld := by
  have installed : installLog rootContext (photoRequest more) photoWorld Settings.default =
      .ok (logOpened photoWorld) () := installLog_root rfl rfl rfl
  have loaded : loadSettings rootContext photoWorld = .ok photoWorld Settings.default := rfl
  have found : expandPaths (logOpened photoWorld).volume rootContext.surroundings.cwd
      (photoRequest more).paths = .ok paths := expanded
  rw [prepare, loaded, Stage.ok_andThen, installed, Stage.ok_andThen]
  dsimp only
  rw [found]
  exact ⟨rfl, rfl⟩

theorem photo_built (more : List String) :
    buildRenamer rootContext (photoRequest more) Settings.default = .ok defaultRenamer ∧
      schemeArgument (photoRequest more) = .ok (Scheme.toValue [.literal "b"]) := by
  have parsed : Scheme.parse "b" = [.literal "b"] := by decide +kernel
  have defaultParsed : Scheme.parse "Renamed-default-" = [.literal "Renamed-default-"] := by
    decide +kernel
  have tokens : Settings.default.schemeTokens = .ok [.literal "Renamed-default-"] := by
    have given : Settings.default.scheme = .text "Renamed-default-" := rfl
    rw [Settings.schemeTokens, given, Settings.readScheme, defaultParsed]
    rfl
  constructor
  · rw [buildRenamer, tokens]
    rfl
  · have given : (photoRequest more).scheme = some (.text "b") := rfl
    simp [schemeArgument, given, parsed]
    rfl

/-- The draft of such a run is a plan for its paths, in a tree with the photo. -/
theorem photo_drafted {more : List String} {paths : List Path}
    (expanded : expandPaths (logOpened photoWorld).volume ⟨.root, []⟩ ("/a" :: more) = .ok paths) :
    PhotoReady (draft rootContext (photoRequest more) photoWorld).world ∧
      ∃ planning, ∃ u : Volume,
        (draft rootContext (photoRequest more) photoWorld).outcome = .ok (paths, planning) ∧
        planning = (defaultRenamer.planner rootContext.disk rootContext.lookup
          rootContext.room).plan u [.literal "b"] (.list (paths.map .path)) ∧
        u.entry? ["a"] = some (.file 0) ∧ u.entry? ["--dry-run"] = none := by
  obtain ⟨prepared, world⟩ := photo_prepared expanded
  obtain ⟨built, scheme⟩ := photo_built more
  have chosen : defaultRenamer.schemeFor (Scheme.toValue [.literal "b"]) = .ok [.literal "b"] :=
    rfl
  rw [draft, (Stage.andThen_of_ok prepared _).1, (Stage.andThen_of_ok prepared _).2, world]
  dsimp only
  rw [built, scheme]
  have ready := (photoWorld_ready.traced (Log.Traced.ok defaultRenamer) rootContext).traced
    (Log.Traced.ok (Scheme.toValue [.literal "b"])) rootContext
  obtain ⟨photo, noSwitch⟩ := ready.volumeForPlan rootContext paths
  exact ⟨ready, _, _, rfl, Renamer.generate_of_chosen chosen, photo, noSwitch⟩

theorem photo_shown (more : List String) {planning : Planning} {plan : Plan}
    (planned : planning.outcome = .ok plan) (ready : PhotoReady x) :
    (showPlan rootContext (photoRequest more) planning x).outcome = .ok plan.entries ∧
      PhotoReady (showPlan rootContext (photoRequest more) planning x).world := by
  have reached : (Stage.ofTraced x ⟨planning.outcome, planning.logs⟩).outcome = .ok plan := planned
  constructor
  · exact (Stage.andThen_of_ok reached _).1
  · apply PhotoReady.written
    rw [(Stage.andThen_of_ok reached _).2]
    exact ready

/-- A world in which nothing has the name of the photo, with the log at the root. -/
structure PhotoGone (x : World) : Prop where
  gone : x.volume.entry? ["a"] = none
  log : LogAtRoot x

theorem PhotoGone.written {s : Stage α} (gone : PhotoGone s.world) (c : Context) :
    PhotoGone (s.written c).world := by
  obtain ⟨still, same⟩ := gone.log.written c
  exact ⟨(same "a" (by decide)).trans gone.gone, still⟩

/-- Applying the plan takes the photo from its name. -/
theorem PhotoReady.applied (ready : PhotoReady x) :
    (∃ o, (applyPlan rootContext [(.path ⟨.root, ["a"]⟩, .text "b")] x).outcome = .ok [o]) ∧
      PhotoGone (applyPlan rootContext [(.path ⟨.root, ["a"]⟩, .text "b")] x).world := by
  obtain ⟨o, applied, -, moved⟩ := photo_renamed ready.photo ready.free
  refine ⟨⟨o, applied⟩, ?_⟩
  apply PhotoGone.written
  dsimp only
  rw [moved]
  obtain ⟨f, opened, place, named, noLink⟩ := ready.log
  constructor
  · exact Volume.entry?_move_left (by simp) (Volume.siblings_apart (by decide))
  · refine ⟨f, opened, place, named, ?_⟩
    rw [place] at noLink ⊢
    intro target
    rw [Volume.Spot.location, Volume.entry?_move_apart (Volume.siblings_apart (by decide))
      (Volume.siblings_apart (by decide))]
    exact noLink target

theorem PhotoGone.finish {s : Stage Bool} (gone : PhotoGone s.world) (c : Context) :
    PhotoGone (finish c s).world := by
  rw [Cli.finish]
  split
  next => exact gone
  next => exact PhotoGone.written (s := ⟨.ok (), s.world, _, []⟩) gone c

/-- Behind two hyphens the switch is a path, and the photo is renamed. -/
theorem hyphens_renamed :
    ∃ e, process rootContext
        ("rename" :: (["--quiet", "--scheme", "b", "--", "/a"] ++ ["--dry-run"])) photoWorld =
          .ok e ∧
      e.world.volume.entry? ["a"] = none := by
  refine ⟨finish rootContext (applying rootContext hyphensRequest photoWorld), ?_, ?_⟩
  · rw [process, hyphens_read, Except.map, run, carryOut_wet rootContext photoWorld rfl]
  · have expanded := hyphens_expanded photoWorld_ready.photo photoWorld_ready.noSwitch
    obtain ⟨ready, planning, u, drafted, made, photo, noSwitch⟩ := photo_drafted expanded
    have planned : planning.outcome = .ok ⟨[(.path ⟨.root, ["a"]⟩, .text "b")], true⟩ := by
      rw [made]
      exact hyphens_planned photo noSwitch
    obtain ⟨shown, still⟩ := photo_shown ["--dry-run"] planned ready
    obtain ⟨⟨o, applied⟩, gone⟩ := still.applied
    apply (PhotoGone.finish _ rootContext).gone
    rw [hyphensRequest, applying, (Stage.andThen_of_ok drafted _).2]
    dsimp only
    rw [(Stage.andThen_of_ok shown _).2, (Stage.andThen_of_ok applied _).2, summaryStage,
      Stage.printing_world]
    exact gone

/-! ## A full log file -/

/-- A world with a full log file and one that has been put away. The configured scheme is no text,
so a run ends with a failure and one record of it. -/
def fullWorld : World :=
  ⟨⟨[(["log"], .file 1), (["log.1"], .file 2)],
      [(1, List.replicate Log.LogFile.sizeLimit 0), (2, [])]⟩,
    ⟨some ⟨{ Settings.default with scheme := .int 5 }, ⟨.root, ["config.toml"]⟩, 0⟩, 1⟩, .standard⟩

/-- What has been put away moves on by one, and the full file becomes the first. -/
theorem fullLog_turnOver {u : Volume} (entries : u.entries = fullWorld.volume.entries) :
    (rootLog.turnOver u Log.LogFile.backupCount).volume.entry? ["log.1"] = some (.file 1) := by
  obtain ⟨listed, contents⟩ := u
  cases entries
  have missing : ∀ n ≤ 4, 2 ≤ n →
      Volume.lookAt? ⟨fullWorld.volume.entries, contents⟩ (rootLog.backup n) = none := by
    have names : ∀ n ≤ 4, Path.IsName (rootLog.backup n).name ∧
        Volume.octetLength (rootLog.backup n).name ≤ Volume.nameLimit ∧
        (rootLog.backup n).dir = [] := by decide +kernel
    have free : ∀ n ≤ 4, 2 ≤ n →
        Volume.entry? ⟨fullWorld.volume.entries, []⟩ (rootLog.backup n).location = none := by
      decide +kernel
    intro n below above
    obtain ⟨named, fits, dir⟩ := names n below
    have absent : Volume.entry? ⟨fullWorld.volume.entries, contents⟩ (rootLog.backup n).location =
        none := free n below above
    exact (Volume.lookAt?_of_noLink named fits (by simp [dir]) (by simp [absent])).trans absent
  have four := Log.LogFile.putAway_of_missing (missing 4 (by decide) (by decide))
  have three := Log.LogFile.putAway_of_missing (missing 3 (by decide) (by decide))
  have two := Log.LogFile.putAway_of_missing (missing 2 (by decide) (by decide))
  have one : rootLog.putAway ⟨fullWorld.volume.entries, contents⟩ 1 =
      .ok (Volume.move ⟨fullWorld.volume.entries, contents⟩ ["log.1"] ["log.2"]) :=
    Log.LogFile.putAway_of_file (by decide +kernel) (by decide +kernel) (by decide) (by decide)
      (by decide) (by decide) (by decide) rfl rfl rfl
  have zero : rootLog.putAway
      (Volume.move ⟨fullWorld.volume.entries, contents⟩ ["log.1"] ["log.2"]) 0 =
      .ok (Volume.move (Volume.move ⟨fullWorld.volume.entries, contents⟩ ["log.1"] ["log.2"])
        ["log"] ["log.1"]) :=
    Log.LogFile.putAway_of_file rfl (by decide +kernel) (by decide) (by decide) (by decide)
      (by decide) (by decide) rfl rfl rfl
  change (rootLog.turnOver ⟨fullWorld.volume.entries, contents⟩ 5).volume.entry? ["log.1"] =
    some (.file 1)
  simp only [Log.LogFile.turnOver, four, three, two, one, zero]
  rfl

/-- A line for the full file puts away what was there. -/
theorem fullLog_put {u : Volume} (entries : u.entries = fullWorld.volume.entries)
    (full : Log.LogFile.sizeLimit ≤ (u.content 1).length) (line : String) :
    Volume.entry? (rootLog.put u line).2 ["log.1"] = some (.file 1) := by
  have turned := fullLog_turnOver entries
  have there : u.entry? ["log"] = some (.file 1) := by
    rw [Volume.entry?, entries]
    rfl
  have regular : u.lookAt? rootLog.place = some (.file 1) :=
    (Volume.lookAt?_of_noLink (by decide) (by decide) (Volume.entry?_root u)
      (by simp [rootLog, Volume.Spot.location, there])).trans there
  have isFull : rootLog.isFull u 1 line = true := by
    have reached : Log.LogFile.sizeLimit ≤ (u.content 1).length + line.length :=
      Nat.le_trans full (Nat.le_add_right _ _)
    simp [Log.LogFile.isFull, regular, Volume.isRegular, reached]
  have held : rootLog.held u = .ok (1, u) := rfl
  simp only [Log.LogFile.put, held, isFull, ↓reduceIte]
  split
  next =>
    split
    next => exact turned
    next new v opened => exact Volume.openAt_keeps opened turned
  next => exact turned

/-- What is read of a command line that plans a name for the photo. -/
def planRequest : Request :=
  ⟨.plan, ["/a"], none, none, true, false, true⟩

/-- Such a run fails when the configured scheme is read. -/
theorem fullLog_carryOut :
    (carryOut rootContext planRequest fullWorld).outcome = .error (.noLength "int") ∧
      (carryOut rootContext planRequest fullWorld).world = logOpened fullWorld := by
  let settings : Settings := { Settings.default with scheme := .int 5 }
  have loaded : loadSettings rootContext fullWorld = .ok fullWorld settings := rfl
  have installed : installLog rootContext planRequest fullWorld settings =
      .ok (logOpened fullWorld) () := installLog_root rfl rfl rfl
  have expanded : expandPaths (logOpened fullWorld).volume rootContext.surroundings.cwd
      planRequest.paths = .ok [⟨.root, ["a"]⟩] := by
    have missing : (logOpened fullWorld).volume.find .followed ⟨.root, []⟩ ⟨.root, ["a"]⟩ =
        .error (.code .missing) := Volume.find_root_absent (by decide) (by decide) rfl
    have named : Path.ofText "/a" = ⟨.root, ["a"]⟩ := by decide
    simp [planRequest, rootContext, expandPaths, named, Volume.isDirectory?, Volume.ask,
      Volume.look, missing, Volume.Refusal.isAbsence]
    rfl
  have prepared : prepare rootContext planRequest fullWorld =
      ⟨.ok (settings, [⟨.root, ["a"]⟩]), logOpened fullWorld, [], []⟩ := by
    rw [prepare, loaded, Stage.ok_andThen, installed, Stage.ok_andThen, expanded]
    rfl
  have failed : buildRenamer rootContext planRequest settings = .fail (.noLength "int") := rfl
  rw [carryOut, prepared]
  simp [Stage.andThen, failed, Stage.ofTraced, Stage.written, Log.Traced.fail]

/-- Planning with a full log file moves a file that has been put away. -/
theorem fullLog_planned :
    ∃ e, process rootContext ["plan", "--quiet", "/a"] fullWorld = .ok e ∧
      e.world.volume.entry? ["log.1"] = some (.file 1) := by
  refine ⟨run rootContext planRequest fullWorld, rfl, ?_⟩
  obtain ⟨outcome, world⟩ := fullLog_carryOut
  rw [run, finish, outcome]
  dsimp only
  rw [world]
  have full : Log.LogFile.sizeLimit ≤ ((logOpened fullWorld).volume.content 1).length := by
    have octets : (logOpened fullWorld).volume.content 1 =
        List.replicate Log.LogFile.sizeLimit 0 :=
      (Volume.content_setContent _ 1 1 _).trans (if_pos rfl)
    rw [octets, List.length_replicate]
  exact fullLog_put rfl full _

end Cli

end MediaNaming
