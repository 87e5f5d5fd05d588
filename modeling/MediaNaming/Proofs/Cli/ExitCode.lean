import MediaNaming.Proofs.Cli.DryRun
import MediaNaming.Proofs.Cli.Ordinary
import MediaNaming.Proofs.Plan.Interrupts
import MediaNaming.Proofs.Rename.Interrupts
/-!
# What the exit code tells

A run counts the different paths that it was given and the entries of its plan. The two counts
agree exactly if no file is left out, so the exit code 0 says that nothing failed, that every
path has got a name, and that every file was renamed if it was to be. The exit code 130 says that
a collaborator has told of the user's wish to stop, whichever question it was asked, and the exit
code 1 stands for everything else.
-/

namespace MediaNaming

open Log

/-! ## Counting paths -/

theorem nodup_eraseDups {α : Type} [BEq α] [LawfulBEq α] (as : List α) :
    as.eraseDups.Nodup := by
  -- What stands behind the first item is shorter, but not a part of the list.
  induction size : as.length using Nat.strongRecOn generalizing as with
  | ind n ih =>
      cases as with
      | nil => simp
      | cons a as =>
          rw [List.eraseDups_cons, List.nodup_cons]
          constructor
          · simp
          · apply ih _ _ _ rfl
            rw [← size, List.length_cons]
            exact Nat.lt_succ_of_le (List.length_filter_le _ as)

namespace Planner

variable {pl : Planner} {v : Volume} {scheme : Scheme} {paths : List Value} {files : List Path}
  {plan : MediaNaming.Plan}

/-- No file is left out exactly if every path is a key of the plan. -/
theorem skipped_eq_nil_iff (planned : (pl.planAll v scheme paths).outcome = .ok plan) :
    (pl.planAll v scheme paths).skipped = [] ↔
      ∀ path ∈ paths, path ∈ plan.entries.map Prod.fst := by
  constructor
  · intro none path listed
    obtain ⟨r, resolved⟩ := sweep_stop_eq_none_iff.mp (planAll_ok planned).1 path listed
    cases r with
    | named key name =>
        obtain ⟨same, -⟩ := resolve_ok resolved
        rw [same] at resolved
        exact (mem_keys_iff planned).mpr ⟨listed, name, resolved⟩
    | skipped s =>
        have left := (mem_skipped_paths_iff planned).mpr ⟨listed, s, resolved⟩
        rw [none] at left
        cases left
  · intro all
    apply List.eq_nil_iff_forall_not_mem.mpr
    intro s left
    obtain ⟨listed, skipped⟩ := (mem_planAll_skipped planned).mp left
    obtain ⟨-, name, named⟩ := (mem_keys_iff planned).mp (all s.path listed)
    rw [skipped] at named
    cases named

/-- The plan has as many entries as there are different paths exactly if no file is left out. -/
theorem length_entries_iff
    (planned : (pl.planAll v scheme (files.map .path)).outcome = .ok plan) :
    plan.entries.length = files.eraseDups.length ↔
      (pl.planAll v scheme (files.map .path)).skipped = [] := by
  have keys : (plan.entries.map Prod.fst).Nodup := plan_keys_nodup planned
  have distinct : (files.eraseDups.map Value.path).Nodup := by
    apply List.Nodup.map _ (nodup_eraseDups files)
    intro p q same
    exact Value.path.inj same
  have among : plan.entries.map Prod.fst ⊆ files.eraseDups.map Value.path := by
    intro key listed
    obtain ⟨given, -⟩ := (mem_keys_iff planned).mp listed
    obtain ⟨file, member, same⟩ := List.mem_map.mp given
    exact List.mem_map.mpr ⟨file, List.mem_eraseDups.mpr member, same⟩
  rw [skipped_eq_nil_iff planned]
  constructor
  · intro same path given
    have part := List.subperm_of_subset keys among
    have whole := part.perm_of_length_le (by simp [same])
    obtain ⟨file, member, named⟩ := List.mem_map.mp given
    exact whole.mem_iff.mpr (List.mem_map.mpr ⟨file, List.mem_eraseDups.mpr member, named⟩)
  · intro all
    have back : files.eraseDups.map Value.path ⊆ plan.entries.map Prod.fst := by
      intro key listed
      obtain ⟨file, member, same⟩ := List.mem_map.mp listed
      exact all key (List.mem_map.mpr ⟨file, List.mem_eraseDups.mp member, same⟩)
    have whole := (List.perm_ext_iff_of_nodup keys distinct).mpr fun key =>
      ⟨fun listed => among listed, fun listed => back listed⟩
    simpa using whole.length_eq

end Planner

namespace Cli

variable {c : Context} {r : Request} {w : World} {paths : List Path} {planning : Planning}
  {entries : Entries} {outcomes : Option (List Outcome)} {f : Failure}

/-! ## Runs without a failure -/

namespace Stage

variable {α β : Type} {s : Stage α} {next : World → α → Stage β}

theorem andThen_ok_iff {b : β} : (s.andThen next).outcome = .ok b ↔
    ∃ a, s.outcome = .ok a ∧ (next s.world a).outcome = .ok b := by
  rw [andThen_outcome]
  cases s.outcome <;> simp

theorem andThen_error_iff : (s.andThen next).outcome = .error f ↔
    s.outcome = .error f ∨ ∃ a, s.outcome = .ok a ∧ (next s.world a).outcome = .error f := by
  rw [andThen_outcome]
  cases s.outcome <;> simp

end Stage

/-- The world in which a plan has been shown. -/
def shownWorld (c : Context) (r : Request) (w : World) (planning : Planning) : World :=
  (showPlan c r planning (draft c r w).world).world

/-- What a run comes to that no failure ends: the paths it is for, what planning gives, the plan
that is shown, what becomes of its entries if it is applied, and a summary. -/
structure Completes (c : Context) (r : Request) (w : World) (paths : List Path)
    (planning : Planning) (entries : Entries) (outcomes : Option (List Outcome)) : Prop where
  drafted : (draft c r w).outcome = .ok (paths, planning)
  shown : (showPlan c r planning (draft c r w).world).outcome = .ok entries
  applied : (renameStage c r entries (shownWorld c r w planning)).outcome = .ok outcomes
  summed : ∃ success, (summaryStage r paths entries outcomes
    ((renameStage c r entries (shownWorld c r w planning)).written c).world).outcome =
      .ok success

theorem summaryStage_ok {success : Bool} {x : World}
    (summed : (summaryStage r paths entries outcomes x).outcome = .ok success) :
    success = isSuccess paths.eraseDups.length entries.length outcomes := by
  simp only [summaryStage, Stage.printing] at summed
  split at summed
  next => cases summed
  next =>
    cases summed
    rfl

/-- A run that no failure ends tells whether it was a success. -/
theorem carryOut_ok_iff {success : Bool} : (carryOut c r w).outcome = .ok success ↔
    ∃ paths planning entries outcomes, Completes c r w paths planning entries outcomes ∧
      success = isSuccess paths.eraseDups.length entries.length outcomes := by
  rw [carryOut_eq, Stage.andThen_ok_iff]
  constructor
  · rintro ⟨⟨paths, planning⟩, drafted, later⟩
    obtain ⟨entries, shown, later⟩ := Stage.andThen_ok_iff.mp later
    obtain ⟨outcomes, applied, summed⟩ := Stage.andThen_ok_iff.mp later
    exact ⟨paths, planning, entries, outcomes, ⟨drafted, shown, applied, success, summed⟩,
      summaryStage_ok summed⟩
  · rintro ⟨paths, planning, entries, outcomes, completes, rfl⟩
    obtain ⟨success, summed⟩ := completes.summed
    refine ⟨(paths, planning), completes.drafted, ?_⟩
    apply Stage.andThen_ok_iff.mpr
    refine ⟨entries, completes.shown, ?_⟩
    apply Stage.andThen_ok_iff.mpr
    refine ⟨outcomes, completes.applied, ?_⟩
    rw [← summaryStage_ok summed]
    exact summed

/-- The plan that is shown is the one that planning gives. -/
theorem showPlan_ok {x : World} (shown : (showPlan c r planning x).outcome = .ok entries) :
    ∃ plan, planning.outcome = .ok plan ∧ entries = plan.entries := by
  obtain ⟨plan, planned, printed⟩ := Stage.andThen_ok_iff.mp shown
  refine ⟨plan, planned, ?_⟩
  simp only [Stage.printing] at printed
  split at printed
  next => cases printed
  next =>
    cases printed
    rfl

/-- The planner of a run with a substitute. -/
def Context.planner (c : Context) (sub : Substitute) : Planner :=
  ⟨c.disk, c.lookup, sub, c.room⟩

/-- The words of a command line come to a scheme that can be gone through. -/
theorem schemeArgument_chosen (renamer : Renamer) {given : Value}
    (argument : (schemeArgument r).outcome = .ok given) :
    ∃ tokens, renamer.schemeFor given = .ok tokens := by
  unfold schemeArgument at argument
  split at argument <;> cases argument <;> exact ⟨_, rfl⟩

/-- How the planning of a run is made: for the paths of the run, in the tree that the log has
just been written to, with the collaborators of the run. -/
theorem draft_planned (drafted : (draft c r w).outcome = .ok (paths, planning)) :
    ∃ sub scheme, planning =
      (c.planner sub).planAll (volumeForPlan c paths (draft c r w).world) scheme
        (paths.map .path) := by
  obtain ⟨⟨settings, files⟩, prepared, later⟩ := Stage.andThen_ok_iff.mp drafted
  obtain ⟨renamer, built, later⟩ := Stage.andThen_ok_iff.mp later
  obtain ⟨scheme, given, last⟩ := Stage.andThen_ok_iff.mp later
  have world : (draft c r w).world = ((Stage.ofTraced ((Stage.ofTraced (prepare c r w).world
      (buildRenamer c r settings)).written c).world (schemeArgument r)).written c).world := by
    rw [draft, (Stage.andThen_of_ok prepared _).2]
    dsimp only
    rw [(Stage.andThen_of_ok built _).2, (Stage.andThen_of_ok given _).2]
    rfl
  rw [world]
  cases last
  obtain ⟨tokens, chosen⟩ := schemeArgument_chosen renamer given
  exact ⟨renamer.substitute, tokens, Renamer.generate_of_chosen chosen⟩

/-! ## Interrupted runs -/

/-- A collaborator interrupts a run: when it is asked about a path behind paths that have been
resolved, or in the turn of a pair behind pairs that have had theirs. -/
inductive Interrupted (c : Context) (r : Request) (w : World) : Prop where
  | inPlanning {paths : List Path} {planning : Planning} {sub : Substitute} {scheme : Scheme}
      {done rest : List Value} {path : Value} {f : Failure}
      (drafted : (draft c r w).outcome = .ok (paths, planning))
      (planned : planning =
        (c.planner sub).planAll (volumeForPlan c paths (draft c r w).world) scheme
          (paths.map .path))
      (split : paths.map .path = done ++ path :: rest)
      (reached : ∀ p ∈ done, ∃ found, ((c.planner sub).resolve
        (volumeForPlan c paths (draft c r w).world) scheme p).outcome = .ok found)
      (refused : (c.planner sub).Refused
        (volumeForPlan c paths (draft c r w).world) path f)
      (interrupt : f.isInterrupt = true)
  | inRenaming {paths : List Path} {planning : Planning} {entries before after : Entries}
      {old new : Value} {f : Failure}
      (wet : r.dryRun = false)
      (drafted : (draft c r w).outcome = .ok (paths, planning))
      (shown : (showPlan c r planning (draft c r w).world).outcome = .ok entries)
      (split : entries = before ++ (old, new) :: after)
      (reached : (Rename.renameAll c.disk (shownWorld c r w planning).volume before).stop = none)
      (refused : Rename.Refused c.disk
        (Rename.renameAll c.disk (shownWorld c r w planning).volume before).volume old new f)
      (interrupt : f.isInterrupt = true)

theorem draft_ordinary (c : Context) (r : Request) (w : World) :
    Ordinary (draft c r w).outcome := by
  apply Stage.andThen_ordinary (prepare_ordinary c r w)
  intro (settings, paths)
  apply Stage.andThen_ordinary (buildRenamer_ordinary c r settings)
  intro renamer
  apply Stage.andThen_ordinary (schemeArgument_ordinary r)
  intro scheme
  exact .ok _

/-- Showing a plan is interrupted only if planning has been. -/
theorem showPlan_interrupt_iff {x : World} (interrupt : f.isInterrupt = true) :
    (showPlan c r planning x).outcome = .error f ↔ planning.outcome = .error f := by
  constructor
  · intro failed
    rcases Stage.andThen_error_iff.mp failed with planned | ⟨plan, -, printed⟩
    · exact planned
    · refine absurd printed (Ordinary.ne_error (Stage.printing_ordinary ?_) interrupt)
      split
      next => exact .ok _
      next => exact Display.planLines_ordinary _ _ _
  · intro failed
    exact Stage.andThen_error_iff.mpr (Or.inl failed)

/-- Applying a plan fails exactly if the turn of a pair does. -/
theorem renameStage_error_iff {x : World} : (renameStage c r entries x).outcome = .error f ↔
    r.dryRun = false ∧ (Rename.renameAll c.disk x.volume entries).stop = some f := by
  unfold renameStage
  cases r.dryRun with
  | true => simp [Stage.ok]
  | false =>
      have outcome := Rename.execute_outcome c.disk x.volume entries
      rw [Rename.execute] at outcome
      simp only [Bool.false_eq_true, ↓reduceIte, outcome, true_and]
      cases (Rename.renameAll c.disk x.volume entries).stop <;> simp [Except.map]

/-- A run ends with the user's wish to stop exactly if a collaborator interrupts it. -/
theorem carryOut_interrupt_iff :
    (∃ f, (carryOut c r w).outcome = .error f ∧ f.isInterrupt = true) ↔ Interrupted c r w := by
  rw [carryOut_eq]
  constructor
  · rintro ⟨f, failed, interrupt⟩
    rcases Stage.andThen_error_iff.mp failed with early | ⟨⟨paths, planning⟩, drafted, later⟩
    · exact absurd early ((draft_ordinary c r w).ne_error interrupt)
    rcases Stage.andThen_error_iff.mp later with planned | ⟨entries, shown, later⟩
    · obtain ⟨sub, scheme, made⟩ := draft_planned drafted
      rw [showPlan_interrupt_iff interrupt, made] at planned
      obtain ⟨done, path, rest, split, reached, stopped⟩ :=
        Planner.planAll_error_of_path_iff.mp planned
      exact .inPlanning drafted made split reached
        ((Planner.resolve_interrupt_iff interrupt).mp stopped) interrupt
    rcases Stage.andThen_error_iff.mp later with applied | ⟨outcomes, -, summed⟩
    · obtain ⟨wet, stopped⟩ := renameStage_error_iff.mp applied
      obtain ⟨before, old, new, after, split, reached, turn⟩ :=
        Rename.renameAll_stop_iff.mp stopped
      exact .inRenaming wet drafted shown split reached
        ((Rename.renamePair_interrupt_iff interrupt).mp turn) interrupt
    · exact absurd summed ((summaryStage_ordinary _ _ _ _ _).ne_error interrupt)
  · intro interrupted
    cases interrupted with
    | @inPlanning paths planning sub scheme done rest path f drafted planned split reached refused
        interrupt =>
        refine ⟨f, ?_, interrupt⟩
        apply Stage.andThen_error_iff.mpr
        refine Or.inr ⟨(paths, planning), drafted, ?_⟩
        apply Stage.andThen_error_iff.mpr
        apply Or.inl
        rw [showPlan_interrupt_iff interrupt, planned]
        exact Planner.planAll_error_of_path_iff.mpr
          ⟨done, path, rest, split, reached, (Planner.resolve_interrupt_iff interrupt).mpr refused⟩
    | @inRenaming paths planning entries before after old new f wet drafted shown split reached
        refused interrupt =>
        refine ⟨f, ?_, interrupt⟩
        apply Stage.andThen_error_iff.mpr
        refine Or.inr ⟨(paths, planning), drafted, ?_⟩
        apply Stage.andThen_error_iff.mpr
        refine Or.inr ⟨entries, shown, ?_⟩
        apply Stage.andThen_error_iff.mpr
        apply Or.inl
        apply renameStage_error_iff.mpr
        refine ⟨wet, ?_⟩
        exact Rename.renameAll_stop_iff.mpr ⟨before, old, new, after, split, reached,
          (Rename.renamePair_interrupt_iff interrupt).mpr refused⟩

/-- The usual file system interrupts nobody. -/
theorem refused_of_direct {cwd : Path} {v : Volume} {old new : Value}
    (refused : Rename.Refused (Disk.direct cwd) v old new f) : f.isInterrupt = false := by
  cases refused with
  | isFile source refused => cases refused
  | isThere checked refused => exact Volume.ask_ordinary _ f refused
  | sameFile checked there refused => exact Volume.sameFile?_ordinary f refused
  | rename checked free refused => exact Volume.rename?_ordinary f refused
  | wordless checked free refused absorbed untold =>
      rw [Volume.rename?_worded refused] at untold
      cases untold

/-- Where every file has metadata, a run on the usual file system is not interrupted. -/
theorem not_interrupted_of_direct {cwd : Path} (direct : c.disk = Disk.direct cwd)
    (answers : ∀ v p, ∃ metadata, (c.lookup v p).outcome = .ok metadata) :
    ¬Interrupted c r w := by
  have answered : ∀ v p g, (c.lookup v p).outcome ≠ .error g := by
    intro v p g failed
    obtain ⟨metadata, found⟩ := answers v p
    rw [found] at failed
    cases failed
  intro interrupted
  cases interrupted with
  | @inPlanning paths planning sub scheme done rest path f drafted planned split reached refused
      interrupt =>
      cases refused with
      | isFile source refused =>
          rw [Context.planner, direct] at refused
          cases refused
      | lookup source isFile refused => exact answered _ _ _ refused
      | wordless source isFile refused absorbed untold => exact answered _ _ _ refused
  | @inRenaming paths planning entries before after old new f wet drafted shown split reached
      refused interrupt =>
      rw [direct] at refused
      rw [refused_of_direct refused] at interrupt
      cases interrupt

/-! ## Exit codes -/

theorem failureReport_exit (f : Failure) :
    (failureReport f).1 = if f.isInterrupt then 130 else 1 := by
  unfold failureReport
  split
  next => rfl
  next => split <;> rfl

/-- The exit code, by how a run ends. -/
theorem finish_exit (c : Context) (s : Stage Bool) :
    (finish c s).exit = match s.outcome with
      | .ok success => if success then 0 else 1
      | .error f => if f.isInterrupt then 130 else 1 := by
  unfold finish
  cases s.outcome with
  | ok success => rfl
  | error f => exact failureReport_exit f

theorem finish_exit_eq_zero_iff (c : Context) (s : Stage Bool) :
    (finish c s).exit = 0 ↔ s.outcome = .ok true := by
  rw [finish_exit]
  cases s.outcome with
  | ok success => cases success <;> simp
  | error f => cases wish : f.isInterrupt <;> simp [wish]

theorem finish_exit_eq_interrupt_iff (c : Context) (s : Stage Bool) :
    (finish c s).exit = 130 ↔ ∃ f, s.outcome = .error f ∧ f.isInterrupt = true := by
  rw [finish_exit]
  cases s.outcome with
  | ok success => cases success <;> simp
  | error f => cases wish : f.isInterrupt <;> simp [wish]

theorem finish_exit_cases (c : Context) (s : Stage Bool) :
    (finish c s).exit = 0 ∨ (finish c s).exit = 1 ∨ (finish c s).exit = 130 := by
  rw [finish_exit]
  cases s.outcome with
  | ok success => cases success <;> simp
  | error f => cases wish : f.isInterrupt <;> simp [wish]

theorem isSuccess_iff {total planned : Nat} : isSuccess total planned outcomes = true ↔
    planned = total ∧ ∀ os, outcomes = some os → ∀ o ∈ os, o.isRenamed = true := by
  cases outcomes <;> simp [isSuccess]

/-- What a planning without failure tells of the files left out, told by the plan. -/
structure Accounts (paths : List Path) (planning : Planning) (plan : Plan) : Prop where
  keys : planning.skipped = [] ↔ ∀ p ∈ paths, .path p ∈ plan.entries.map Prod.fst
  count : planning.skipped = [] ↔ plan.entries.length = {p | p ∈ paths}.ncard

theorem draft_accounts {plan : Plan} (drafted : (draft c r w).outcome = .ok (paths, planning))
    (planned : planning.outcome = .ok plan) : Accounts paths planning plan := by
  obtain ⟨sub, scheme, made⟩ := draft_planned drafted
  rw [made] at planned ⊢
  have distinct : {p | p ∈ paths}.ncard = paths.eraseDups.length := by
    rw [← List.toFinset_card_of_nodup (nodup_eraseDups paths), ← Set.ncard_coe_finset]
    congr 1
    ext p
    simp
  constructor
  · rw [Planner.skipped_eq_nil_iff planned]
    simp
  · rw [distinct]
    exact (Planner.length_entries_iff planned).symm

/-- The exit code is 0 exactly if no failure ends the run, no file is left out of the plan, which
means that every path is one of its keys, and every pair is renamed unless nothing is to be
changed. It is 130 exactly if a collaborator interrupts the run, and 1 otherwise. -/
theorem process_exit {argv : List String} (accepted : Request.read argv = .ok r) (c : Context)
    (w : World) :
    ∃ e, process c argv w = .ok e ∧
      (e.exit = 0 ↔ ∃ paths planning entries outcomes,
        Completes c r w paths planning entries outcomes ∧ planning.skipped = [] ∧
          ∀ os, outcomes = some os → ∀ o ∈ os, o.isRenamed = true) ∧
      (e.exit = 130 ↔ Interrupted c r w) ∧
      (e.exit = 0 ∨ e.exit = 1 ∨ e.exit = 130) ∧
      ((∃ success, (carryOut c r w).outcome = .ok success) ↔
        ∃ paths planning entries outcomes, Completes c r w paths planning entries outcomes) ∧
      ∀ paths planning plan, (draft c r w).outcome = .ok (paths, planning) →
        planning.outcome = .ok plan → Accounts paths planning plan := by
  refine ⟨run c r w, ?_, ?_, ?_, finish_exit_cases c _, ?_, fun _ _ _ => draft_accounts⟩
  · rw [process, accepted]
    rfl
  · rw [run, finish_exit_eq_zero_iff, carryOut_ok_iff]
    have success : ∀ {paths planning entries outcomes},
        Completes c r w paths planning entries outcomes →
          (entries.length = paths.eraseDups.length ↔ planning.skipped = []) := by
      intro paths planning entries outcomes completes
      obtain ⟨plan, planned, rfl⟩ := showPlan_ok completes.shown
      obtain ⟨sub, scheme, rfl⟩ := draft_planned completes.drafted
      exact Planner.length_entries_iff planned
    constructor
    · rintro ⟨paths, planning, entries, outcomes, completes, succeeded⟩
      obtain ⟨same, renamed⟩ := isSuccess_iff.mp succeeded.symm
      exact ⟨paths, planning, entries, outcomes, completes, (success completes).mp same, renamed⟩
    · rintro ⟨paths, planning, entries, outcomes, completes, none, renamed⟩
      refine ⟨paths, planning, entries, outcomes, completes, ?_⟩
      exact (isSuccess_iff.mpr ⟨(success completes).mpr none, renamed⟩).symm
  · rw [run, finish_exit_eq_interrupt_iff, carryOut_interrupt_iff]
  · constructor
    · rintro ⟨success, succeeded⟩
      obtain ⟨paths, planning, entries, outcomes, completes, -⟩ := carryOut_ok_iff.mp succeeded
      exact ⟨paths, planning, entries, outcomes, completes⟩
    · rintro ⟨paths, planning, entries, outcomes, completes⟩
      exact ⟨_, carryOut_ok_iff.mpr ⟨paths, planning, entries, outcomes, completes, rfl⟩⟩

/-- A run that renames its one file is a success; a path that names no file is left out, which is
none. -/
theorem process_exit_hyphens :
    (Request.read ["rename", "--quiet", "--scheme", "b", "/a"] = .ok (photoRequest []) ∧
      ∃ e, process rootContext ["rename", "--quiet", "--scheme", "b", "/a"] photoWorld = .ok e ∧
        e.exit = 0) ∧
    Request.read ("rename" :: (["--quiet", "--scheme", "b", "--", "/a"] ++ ["--dry-run"])) =
        .ok hyphensRequest ∧
      ∃ e, process rootContext
          ("rename" :: (["--quiet", "--scheme", "b", "--", "/a"] ++ ["--dry-run"])) photoWorld =
            .ok e ∧ e.exit = 1 := by
  refine ⟨⟨rfl, ?_⟩, hyphens_read, ?_⟩
  · have accepted : Request.read ["rename", "--quiet", "--scheme", "b", "/a"] =
        .ok (photoRequest []) := rfl
    obtain ⟨e, processed, success, -⟩ := process_exit accepted rootContext photoWorld
    refine ⟨e, processed, success.mpr ?_⟩
    obtain ⟨ready, planning, u, drafted, made, photo, -⟩ :=
      photo_drafted (photo_expanded photoWorld_ready.photo)
    obtain ⟨planned, none⟩ := photo_planned photo
    have complete : planning.outcome = .ok ⟨[(.path ⟨.root, ["a"]⟩, .text "b")], true⟩ ∧
        planning.skipped = [] := by
      rw [made]
      exact ⟨planned, none⟩
    obtain ⟨shown, still⟩ := photo_shown [] complete.1 ready
    obtain ⟨o, applied, renamed, -⟩ := photo_renamed still.photo still.free
    have done : (renameStage rootContext (photoRequest [])
        [(.path ⟨.root, ["a"]⟩, .text "b")]
        (shownWorld rootContext (photoRequest []) photoWorld planning)).outcome =
        .ok (some [o]) := by
      rw [renameStage, if_neg (by decide)]
      exact congrArg (Except.map some) applied
    refine ⟨_, planning, _, _, ⟨drafted, shown, done, _, rfl⟩, complete.2, ?_⟩
    simp [renamed]
  · obtain ⟨e, processed, success, interrupted, cases, -, accounts⟩ :=
      process_exit hyphens_read rootContext photoWorld
    refine ⟨e, processed, ?_⟩
    have expanded := hyphens_expanded photoWorld_ready.photo photoWorld_ready.noSwitch
    obtain ⟨-, planning, u, drafted, made, photo, noSwitch⟩ := photo_drafted expanded
    have planned : planning.outcome = .ok ⟨[(.path ⟨.root, ["a"]⟩, .text "b")], true⟩ := by
      rw [made]
      exact hyphens_planned photo noSwitch
    rcases cases with zero | one | stopped
    · obtain ⟨paths, other, entries, outcomes, completes, none, -⟩ := success.mp zero
      have same := drafted.symm.trans completes.drafted
      cases same
      have listed := (accounts _ _ _ drafted planned).keys.mp none ⟨.relative, ["--dry-run"]⟩
        (by simp)
      simp at listed
    · exact one
    · have noInterrupt : ¬Interrupted rootContext hyphensRequest photoWorld :=
        not_interrupted_of_direct rfl fun v p => ⟨[], rfl⟩
      exact absurd (interrupted.mp stopped) noInterrupt

end Cli

end MediaNaming
