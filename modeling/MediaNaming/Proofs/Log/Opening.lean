import MediaNaming.Log.Handlers
import MediaNaming.Proofs.Log.Rotation
import MediaNaming.Proofs.Volume.Written
/-!
# Opening the log

The path of a log file is resolved before anything is made, so no part of it is a `..` and the
tree only grows on the way to it. Records that are written later concern this file and those that
have been put away.
-/

namespace MediaNaming

namespace Volume

variable {v w : Volume} {cwd p q : Path} {id : Nat}

/-! ## Resolved paths -/

theorem child_isNormal {name : String} (normal : p.IsNormal) (notEmpty : name ≠ "")
    (notDot : name ≠ ".") : (p.child name).IsNormal := by
  intro part member
  rcases List.mem_append.mp member with before | last
  · exact normal part before
  · rw [List.mem_singleton.mp last]
    exact ⟨notEmpty, notDot⟩

theorem above_isNormal (normal : p.IsNormal) : p.above.IsNormal := by
  rw [Path.above]
  split
  next => exact child_isNormal normal (by decide) (by decide)
  next => exact fun part member => normal part (List.dropLast_subset _ member)

theorem loop_isNormal (normal : p.IsNormal) (rest : List String) :
    (Real.loop p rest).path.IsNormal := by
  rw [Real.loop, Path.join]
  dsimp only
  split
  next =>
    intro part member
    rcases List.mem_append.mp member with before | behind
    · exact normal part before
    · exact Path.ofText_isNormal _ part behind
  next => exact Path.ofText_isNormal _

/-- Following links for good gives no part that reading a path drops. -/
theorem real_isNormal (v : Volume) (cwd : Path) {fuel : Nat} {opened : List Path} {here : Path}
    {names : List String} (normal : here.IsNormal) :
    (v.real cwd fuel opened here names).path.IsNormal := by
  have child : ∀ {here : Path} {name : String}, here.IsNormal →
      ¬(decide (name = "") || decide (name = ".")) = true → (here.child name).IsNormal := by
    intro here name normal kept
    simp only [Bool.or_eq_true, decide_eq_true_eq, not_or] at kept
    exact child_isNormal normal kept.1 kept.2
  have based : ∀ {here : Path} {target : String}, here.IsNormal →
      (if target.toList.head? = some '/' then ⟨.root, []⟩ else here : Path).IsNormal := by
    intro here target normal
    split
    next => exact fun part member => absurd member List.not_mem_nil
    next => exact normal
  fun_induction real v cwd fuel opened here names with
  | case1 => exact normal
  | case2 fuel opened here name rest skipped ih => exact ih normal
  | case3 fuel opened here rest named ih => exact ih (above_isNormal normal)
  | case4 fuel opened here name rest named notUp noLink ih => exact ih (child normal named)
  | case5 opened here name rest named | case6 opened here name rest named =>
      exact loop_isNormal (child normal named) rest
  | case7 opened here name rest named notUp target link fuel new base inner looped ih =>
      exact loop_isNormal (ih (based normal)) rest
  | case8 opened here name rest named notUp target link fuel new base inner straight ihInner _ ih =>
      exact ih (ihInner (based normal))

/-- A resolved path has no part that would not name an entry. -/
theorem resolve?_ok (working : cwd.IsWorkingDirectory) (resolved : v.resolve? cwd p = .ok q) :
    q.IsNormal ∧ ".." ∉ q.parts := by
  have based : (if p.anchor = .relative then ⟨.relative, []⟩ else ⟨.root, []⟩ : Path).IsNormal := by
    split <;> exact fun part member => absurd member List.not_mem_nil
  simp only [resolve?] at resolved
  split at resolved
  next => cases resolved
  next =>
    split at resolved
    next => cases resolved
    next =>
      cases resolved
      exact ⟨Path.absolute_isNormal working (real_isNormal v cwd based), Path.absolute_no_up⟩

/-! ## Files at the root -/

variable {name : String} (named : Path.IsName name) (fits : octetLength name ≤ nameLimit)

include named fits

theorem resolve?_root (there : v.entry? [name] = some (.file id)) :
    v.resolve? ⟨.root, []⟩ ⟨.root, [name]⟩ = .ok ⟨.root, [name]⟩ := by
  have notUp := named.2.2.1
  have kept : v.find .kept ⟨.root, []⟩ ⟨.root, [name]⟩ = .ok [name] := by
    simp [find, reach, clean_root named, Nat.not_le.mpr (short_root fits), start,
      walk_root named fits there, there, Except.mapError]
  have noLink : v.linkTarget? ⟨.root, []⟩ ⟨.root, [name]⟩ = none := by
    simp [linkTarget?, kept, there]
  have real : v.real ⟨.root, []⟩ pathLimit [] ⟨.root, []⟩ [name] = ⟨⟨.root, [name]⟩, false⟩ := by
    rw [Volume.real]
    simp [named.1, named.2.1, notUp, Path.child, noLink, Volume.real]
  simp [resolve?, clean_root named, real, Path.absolute_of_no_up, Ne.symm notUp,
    find_root_file named fits there]

theorem append?_root (there : v.entry? [name] = some (.file id)) :
    v.append? ⟨.root, []⟩ ⟨.root, [name]⟩ "" = .ok (v.setContent id (v.content id)) := by
  have nothing : Text.Utf8.octets "" = [] := rfl
  rw [append?, update?_root named fits there, nothing, List.append_nil]

end Volume

namespace Log

open Volume (Grown)

namespace LogFile

theorem put_level (f : LogFile) (v : Volume) (line : String) :
    (f.put v line).1.level = f.level := by
  simp only [put]
  grind

theorem putAll_level (f : LogFile) (v : Volume) (lines : List String) :
    (f.putAll v lines).1.level = f.level := by
  induction lines generalizing f v with
  | nil => rfl
  | cons line lines ih => exact (ih (f.put v line).1 (f.put v line).2).trans (put_level f v line)

theorem putAll_append (f : LogFile) (v : Volume) (first rest : List String) :
    f.putAll v (first ++ rest) =
      (f.putAll v first).1.putAll (f.putAll v first).2 rest := by
  induction first generalizing f v with
  | nil => rfl
  | cons line lines ih => exact ih (f.put v line).1 (f.put v line).2

end LogFile

namespace Handlers

variable {s : Surroundings} {v : Volume} {cwd p : Path} {file : Value} {console level : Level}
  {f : LogFile}

/-! ## Opening -/

/-- A log file is open where its path leads. -/
theorem logFile?_eq_some_iff :
    logFile? v cwd p level = some f ↔
      f.path = p ∧ f.level = level ∧ v.find .followed cwd p = .ok f.place.location ∧
        ∃ id, f.id = some id ∧ v.entry? f.place.location = some (.file id) := by
  obtain ⟨path, ⟨dir, name⟩, open', least⟩ := f
  simp only [logFile?, Volume.Spot.location]
  constructor
  · intro named
    split at named
    next other above found =>
      split at named
      next id there =>
        cases named
        exact ⟨rfl, rfl, found, id, rfl, there⟩
      next => cases named
    next => cases named
  · rintro ⟨rfl, rfl, found, id, rfl, there⟩
    simp only [found, there]

/-- The path of the log file that a value names. -/
def target? (s : Surroundings) (v : Volume) (file : Value) : Except Failure Path :=
  (logPath s file).bind fun p => v.resolve? s.cwd p

/-- What comes of opening a log file at a path. -/
structure Opened (s : Surroundings) (v : Volume) (p : Path) (setup : Installation) : Prop where
  grown : Grown s.cwd p v setup.volume
  named : ∀ f, setup.handlers.file = some f →
    f.path = p ∧ setup.volume.find .followed s.cwd p = .ok f.place.location ∧
      ∃ id, f.id = some id ∧ setup.volume.entry? f.place.location = some (.file id)
  /-- A file that is new is the log file. -/
  placed : ∀ l id, setup.volume.entry? l = some (.file id) →
    v.entry? l = some (.file id) ∨ ∃ f, setup.handlers.file = some f ∧ f.place.location = l

theorem openFile_opened (normal : p.IsNormal) (noUp : ".." ∉ p.parts) :
    Opened s v p (openFile s v console p level) := by
  have whole : p.upTo p.parts.length = p := by simp [Path.upTo]
  obtain ⟨shorter, above⟩ := p.parent_upTo p.parts.length
  rw [whole] at above
  have made := Volume.grown_makeParents normal noUp v s.cwd (p.parent.parts.length + 1) shorter
  rw [← above] at made
  have noFile : ∀ l id, (v.makeDirectories s.cwd p.parent).volume.entry? l = some (.file id) →
      v.entry? l = some (.file id) := fun l id there => Volume.file_of_makeParents there
  simp only [openFile]
  split
  next => exact ⟨made, by simp, fun l id there => Or.inl (noFile l id there)⟩
  next =>
    split
    next => exact ⟨made, by simp, fun l id there => Or.inl (noFile l id there)⟩
    next w appended =>
      have grown := Volume.grown_append appended
      obtain ⟨bs, read⟩ := Volume.read?_update appended
      obtain ⟨l, id, found, there, -⟩ := Volume.read?_eq_ok_iff.mp read
      refine ⟨made.trans grown, ?_, ?_⟩
      · intro f opened
        obtain ⟨path, -, reached⟩ := logFile?_eq_some_iff.mp opened
        exact ⟨path, reached⟩
      · intro k other present
        rcases grown.added k (.file other) present with before | onTheWay
        · exact Or.inl (noFile k other before)
        · have same : k = l := by
            have both := Eq.trans (Eq.symm onTheWay) found
            cases both
            rfl
          cases l with
          | nil => simp at there
          | cons name dir =>
              have opened := logFile?_eq_some_iff (f := ⟨p, ⟨dir, name⟩, some id, level⟩).mpr
                ⟨rfl, rfl, found, id, rfl, there⟩
              exact Or.inr ⟨_, opened, same.symm⟩

/-- Setting up the log leaves the tree as it is, or opens the file that the settings name. -/
theorem install_cases (working : s.cwd.IsWorkingDirectory) :
    (install s v file console level).volume = v ∧
        (install s v file console level).handlers.file = none ∨
      ∃ p, target? s v file = .ok p ∧ Opened s v p (install s v file console level) := by
  simp only [install]
  split
  next => exact Or.inl ⟨rfl, rfl⟩
  next =>
    split
    next => exact Or.inl ⟨rfl, rfl⟩
    next p resolved =>
      refine Or.inr ⟨p, resolved, ?_⟩
      have accepted : ∃ q, v.resolve? s.cwd q = .ok p := by
        cases named : logPath s file with
        | error f =>
            rw [named] at resolved
            cases resolved
        | ok q =>
            rw [named] at resolved
            exact ⟨q, resolved⟩
      obtain ⟨q, resolved⟩ := accepted
      obtain ⟨normal, noUp⟩ := Volume.resolve?_ok working resolved
      exact openFile_opened normal noUp

/-- The level of the console has no part in opening the log file. -/
theorem install_console (s : Surroundings) (v : Volume) (file : Value)
    (console other level : Level) :
    (install s v file console level).volume = (install s v file other level).volume ∧
      (install s v file console level).handlers.file =
        (install s v file other level).handlers.file := by
  simp only [install]
  split
  next => exact ⟨rfl, rfl⟩
  next =>
    split
    next => exact ⟨rfl, rfl⟩
    next =>
      simp only [openFile]
      split
      next => exact ⟨rfl, rfl⟩
      next => split <;> exact ⟨rfl, rfl⟩

/-- What has been opened is found again by its name. -/
theorem Opened.sound {setup : Installation} (opened : Opened s v p setup)
    (working : s.cwd.IsWorkingDirectory) (there : setup.handlers.file = some f) :
    f.IsSound setup.volume := by
  obtain ⟨-, found, id, -, present⟩ := opened.named f there
  constructor
  · apply Volume.walk_ownNames (Volume.walk_of_find found)
    · intro name member
      rw [Volume.start] at member
      split at member
      next =>
        obtain ⟨notEmpty, notDot, notUp, -⟩ := working.named name (List.mem_reverse.mp member)
        exact ⟨notEmpty, notDot, notUp⟩
      next => cases member
    · exact List.mem_cons_self
  · simp [present]

/-- A log file that is at the root already is opened there. -/
theorem install_root {name : String} {id : Nat} (named : Path.IsName name)
    (fits : Volume.octetLength name ≤ Volume.nameLimit) (cwd : s.cwd = ⟨.root, []⟩)
    (there : v.entry? [name] = some (.file id)) :
    install s v (.path ⟨.root, [name]⟩) console level =
      ⟨⟨console, some ⟨⟨.root, [name]⟩, ⟨[], name⟩, some id, level⟩⟩,
        v.setContent id (v.content id), none⟩ := by
  have found : Volume.find (v.setContent id (v.content id)) .followed ⟨.root, []⟩
      ⟨.root, [name]⟩ = .ok [name] := Volume.find_root_file named fits there
  have resolved : ((logPath s (.path ⟨.root, [name]⟩)).bind fun p =>
      v.resolve? ⟨.root, []⟩ p) = .ok ⟨.root, [name]⟩ :=
    Volume.resolve?_root named fits there
  simp only [install, openFile, cwd, resolved]
  simp [Path.parent, Volume.makeDirectories_root, Volume.append?_root named fits there, logFile?,
    found, there]

/-! ## Writing -/

variable {rs : List Record} {stamp : String}

@[simp] theorem write_nil (h : Handlers) (v : Volume) (stamp : String) :
    h.write v stamp [] = (h, v) := by
  obtain ⟨console, file⟩ := h
  cases file <;> rfl

/-- Records are written one after another. -/
theorem write_append (h : Handlers) (v : Volume) (stamp : String) (rs ss : List Record) :
    h.write v stamp (rs ++ ss) =
      (h.write v stamp rs).1.write (h.write v stamp rs).2 stamp ss := by
  obtain ⟨console, file⟩ := h
  cases file with
  | none => rfl
  | some f => simp [write, LogFile.putAll_append, LogFile.putAll_level]

/-- Without a log file nothing is written. -/
theorem write_of_none {h : Handlers} (none : h.file = none) : h.write v stamp rs = (h, v) := by
  rw [write, none]

/-- The number of octets that records come to in a log file. -/
def weight (stamp : String) (rs : List Record) : Nat :=
  LogFile.weight (rs.map (fileLine stamp))

theorem write_confined {h : Handlers} (opened : h.file = some f) (sound : f.IsSound v)
    (stamp : String) (rs : List Record) :
    ∃ g, (h.write v stamp rs).1.file = some g ∧
      LogFile.Confined f v g (h.write v stamp rs).2 := by
  simp only [write, opened]
  exact ⟨_, rfl, LogFile.putAll_confined sound _⟩

/-- As long as the file stays below its limit, writing records leaves all other entries. -/
theorem write_short {h : Handlers} (opened : h.file = some f) (sound : f.IsSound v)
    (room : f.size v + weight stamp rs < LogFile.sizeLimit) {l : Location}
    (other : l ≠ f.place.location) : Volume.entry? (h.write v stamp rs).2 l = v.entry? l := by
  simp only [write, opened]
  apply LogFile.putAll_short sound _ other
  apply Nat.lt_of_le_of_lt (Nat.add_le_add_left _ _) room
  exact LogFile.weight_le_of_sublist (List.filter_sublist.map _)

theorem weight_le_of_suffix {logs : List Record} (among : rs <:+ logs) (stamp : String) :
    weight stamp rs ≤ weight stamp logs :=
  LogFile.weight_le_of_sublist (among.sublist.map _)

end Handlers

end Log

end MediaNaming
