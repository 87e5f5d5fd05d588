import MediaNaming.Proofs.Plan.BareNames
import MediaNaming.Proofs.Rename.Interrupts
/-!
# Renaming stays in the directory

The file system moves only what it is asked to move. The turn of a pair asks it for at most one
renaming, from the absolute path of the file to an entry of the same directory, and what decides
whether it asks are the checks in front of it.
-/

namespace MediaNaming

/-- Joining a text to a directory gives its entry of that name exactly if the text is one name. -/
theorem Path.join_eq_child_iff {dir : Path} {s : String} :
    dir.join s = dir.child s ↔ s ≠ "" ∧ s ≠ "." ∧ '/' ∉ s.toList := by
  constructor
  · intro joined
    have kept : s ∈ partsOf s := by
      simp only [join] at joined
      split at joined
      next relative =>
        have behind := List.append_cancel_left (congrArg Path.parts joined)
        rw [show partsOf s = _ from behind]
        exact List.mem_singleton_self s
      next absolute =>
        have parts : partsOf s = dir.parts ++ [s] := congrArg Path.parts joined
        rw [parts]
        exact List.mem_append_right dir.parts (List.mem_singleton_self s)
    obtain ⟨notEmpty, notDot⟩ := ofText_isNormal s s kept
    exact ⟨notEmpty, notDot, Text.not_mem_of_mem_pieces (List.mem_filter.mp kept).1⟩
  · rintro ⟨notEmpty, notDot, inside⟩
    rw [join, ofText_of_no_slash notEmpty notDot inside]
    rfl

namespace Disk

/-- The same file system with another way to rename. -/
def withRename (d : Disk) (r : Volume → Path → Path → Except Failure Volume) : Disk :=
  { d with rename := r }

variable {d : Disk} {r : Volume → Path → Path → Except Failure Volume}

@[simp] theorem withRename_isFile : (d.withRename r).isFile = d.isFile := rfl

@[simp] theorem withRename_absolute : (d.withRename r).absolute = d.absolute := rfl

@[simp] theorem isTaken_withRename {v : Volume} {p q : Path} :
    Rename.isTaken (d.withRename r) v p q = Rename.isTaken d v p q := rfl

/-- The same file system, but for its answer when it is asked, for one tree, to rename one path
to another. -/
def answering (d : Disk) (u : Volume) (p q : Path) (answer : Except Failure Volume) : Disk :=
  d.withRename fun v s t => if v = u ∧ s = p ∧ t = q then answer else d.rename v s t

end Disk

namespace Rename

open MediaNaming.Path (IsName)

variable {disk : Disk} {v u w : Volume} {old new : Value} {cwd p q file : Path} {name : String}
  {r : Volume → Path → Path → Except Failure Volume} {f : Failure}

/-! ## Requests -/

/-- The turn of a pair asks the file system to rename: what comes of the turn depends on the
answer. -/
def Requests (disk : Disk) (v : Volume) (old new : Value) (u : Volume) (p q : Path) : Prop :=
  ∃ answer, renamePair (disk.answering u p q answer) v old new ≠ renamePair disk v old new

/-- A pair that has passed all checks, with the paths of its file before and after. -/
inductive Cleared (disk : Disk) (v : Volume) (old new : Value) : Path → Path → Prop where
  | intro {file : Path} {name : String} (checked : Checked disk v old new file name)
      (free : isTaken disk v (disk.absolute file)
        ((disk.absolute file).parent.child name) = .ok false) :
      Cleared disk v old new (disk.absolute file) ((disk.absolute file).parent.child name)

/-- What is left to do for such a pair is to rename. -/
theorem Cleared.renamePair (cleared : Cleared disk v old new p q) : ∃ name, ∀ r,
    Rename.renamePair (disk.withRename r) v old new =
      moveFile (disk.withRename r) v old name p q := by
  obtain @⟨file, name, ⟨source, isFile, rfl, named, different⟩, free⟩ := cleared
  refine ⟨name, ?_⟩
  intro r
  simp only [Rename.renamePair, source, Disk.withRename_isFile, isFile,
    bareName_of_isName named, renameFile, Disk.withRename_absolute, if_neg different,
    Disk.isTaken_withRename, free]
  rfl

theorem renameFile_of_same (same : (disk.absolute file).parent.child name = disk.absolute file) :
    renameFile disk v old file name =
      skip v old (.text name) .unchanged "name already matches" :=
  if_pos same

theorem renameFile_of_different
    (different : (disk.absolute file).parent.child name ≠ disk.absolute file) :
    let destination := (disk.absolute file).parent.child name
    renameFile disk v old file name = (do
      if ← .ofExcept (isTaken disk v (disk.absolute file) destination) then
        skip v old (.text name) .destinationExists (destination.text ++ " already exists")
      else moveFile disk v old name (disk.absolute file) destination) :=
  if_neg different

/-- A file that is not renamed is left alone whatever way to rename there is. -/
theorem renameFile_withRename
    (stopped : (disk.absolute file).parent.child name ≠ disk.absolute file →
      isTaken disk v (disk.absolute file) ((disk.absolute file).parent.child name) ≠ .ok false) :
    renameFile (disk.withRename r) v old file name = renameFile disk v old file name := by
  by_cases same : (disk.absolute file).parent.child name = disk.absolute file
  · have left : renameFile (disk.withRename r) v old file name = _ := renameFile_of_same same
    rw [left, renameFile_of_same same]
  · have left : renameFile (disk.withRename r) v old file name = _ := renameFile_of_different same
    rw [left, renameFile_of_different same]
    simp only [Disk.withRename_absolute, Disk.isTaken_withRename]
    cases asked : isTaken disk v (disk.absolute file)
        ((disk.absolute file).parent.child name) with
    | error f => rfl
    | ok taken =>
        cases taken with
        | true => rfl
        | false => exact absurd asked (stopped same)

/-- The turn of any other pair is over before it comes to renaming. -/
theorem renamePair_of_not_cleared (stopped : ∀ p q, ¬Cleared disk v old new p q) :
    renamePair (disk.withRename r) v old new = renamePair disk v old new := by
  cases source : old.filePath? with
  | none => simp only [renamePair, source]
  | some file =>
      simp only [renamePair, source, Disk.withRename_isFile]
      cases isFile : disk.isFile v file with
      | error f => rfl
      | ok there =>
          cases there with
          | false => rfl
          | true =>
              cases bare : bareName new with
              | error objection => rfl
              | ok name =>
                  obtain ⟨rfl, named⟩ := bareName_ok bare
                  apply renameFile_withRename
                  intro different free
                  exact stopped _ _ (.intro ⟨source, isFile, rfl, named, different⟩ free)

/-- Ways to rename that agree on what a turn asks for come to the same. -/
theorem renamePair_congr
    (agree : ∀ p q, Cleared disk v old new p q → r v p q = disk.rename v p q) :
    renamePair (disk.withRename r) v old new = renamePair disk v old new := by
  by_cases cleared : ∃ p q, Cleared disk v old new p q
  · obtain ⟨p, q, cleared⟩ := cleared
    obtain ⟨name, moves⟩ := cleared.renamePair
    have same : moveFile (disk.withRename r) v old name p q = moveFile disk v old name p q := by
      simp only [moveFile, Disk.withRename, agree p q cleared]
    rw [moves r, same]
    exact (moves disk.rename).symm
  · simp only [not_exists] at cleared
    exact renamePair_of_not_cleared cleared

/-- A wish to stop in answer to a request ends the turn. -/
theorem Cleared.interrupted (cleared : Cleared disk v old new p q)
    (interrupt : f.isInterrupt = true) :
    (Rename.renamePair (disk.answering v p q (.error f)) v old new).outcome = .error f := by
  obtain ⟨name, moves⟩ := cleared.renamePair
  rw [Disk.answering, moves]
  apply (moveFile_interrupt_iff interrupt).mpr
  simp [Disk.withRename]

/-- The turn of a pair asks to rename exactly if the pair has passed all checks, and then asks
for what these were about. -/
theorem requests_iff : Requests disk v old new u p q ↔ u = v ∧ Cleared disk v old new p q := by
  constructor
  · rintro ⟨answer, different⟩
    by_contra other
    apply different
    apply renamePair_congr
    intro s t cleared
    apply if_neg
    rintro ⟨rfl, rfl, rfl⟩
    exact other ⟨rfl, cleared⟩
  · rintro ⟨rfl, cleared⟩
    -- one of two wishes to stop is not what came of the turn anyway
    by_contra indifferent
    simp only [Requests, not_exists, not_not] at indifferent
    have first := cleared.interrupted (f := .raised .interrupt "") rfl
    have second := cleared.interrupted (f := .raised .interrupt "stop") rfl
    rw [indifferent] at first second
    rw [first] at second
    simp at second

/-- What is asked for is a renaming to another entry of the same directory. -/
theorem Cleared.entry (cleared : Cleared disk v old (.text name) p q) :
    q = p.parent.child name ∧ q ≠ p ∧ IsName name := by
  obtain ⟨checked, -⟩ := cleared
  cases checked.given
  exact ⟨rfl, checked.different, checked.named⟩

theorem join_of_isName (named : IsName name) (dir : Path) : dir.join name = dir.child name :=
  Path.join_eq_child_iff.mpr ⟨named.1, named.2.1, named.2.2.2.1⟩

theorem cleared_iff (paths : disk.absolute = Path.absolute cwd) :
    Cleared disk v old (.text name) p q ↔
      ∃ file, old.filePath? = some file ∧ disk.isFile v file = .ok true ∧ IsName name ∧
        p = Path.absolute cwd file ∧ q = p.parent.join name ∧ q ≠ p ∧
          isTaken disk v p q = .ok false := by
  constructor
  · rintro @⟨file, _, ⟨source, isFile, given, named, different⟩, free⟩
    cases given
    rw [join_of_isName named]
    exact ⟨file, source, isFile, named, by rw [paths], rfl, different, free⟩
  · rintro ⟨file, source, isFile, named, rfl, rfl, different, free⟩
    rw [join_of_isName named, ← paths] at different free ⊢
    exact .intro ⟨source, isFile, rfl, named, different⟩ free

/-! ## One pair -/

/-- A name that joining does not take for an entry of the directory is refused. -/
theorem renamePair_refused (textual : old.IsPathInput)
    (answered : ∀ file, old.filePath? = some file → ∃ b, disk.isFile v file = .ok b)
    {dir : Path} (outside : dir.join name ≠ dir.child name ∨ name = "..") :
    ∃ detail, (renamePair disk v old (.text name)).outcome =
      .ok (⟨old, .text name, none, some .fileNotValid, detail⟩, v) := by
  cases source : old.filePath? with
  | none =>
      simp only [renamePair, source]
      exact ⟨_, skip_outcome textual.wording _ _⟩
  | some file =>
      obtain ⟨isFile, asked⟩ := answered file source
      simp only [renamePair, source]
      rw [Log.Traced.ofExcept_bind_outcome _ asked]
      cases isFile with
      | false => exact ⟨_, skip_outcome textual.wording _ _⟩
      | true =>
          cases bare : bareName (.text name) with
          | error objection => exact ⟨_, skip_outcome textual.wording _ _⟩
          | ok s =>
              obtain ⟨same, notEmpty, notDot, notUp, inside, -⟩ := bareName_ok bare
              cases same
              rcases outside with strange | up
              · exact absurd (Path.join_eq_child_iff.mpr ⟨notEmpty, notDot, inside⟩) strange
              · exact absurd up notUp

/-- The turn of a pair asks the file system for nothing but to rename the absolute path of its
file to another entry of the same directory, the one that joining the new name gives. The pair is
left out as invalid whenever joining gives anything else. -/
theorem renamePair_requests (paths : disk.absolute = Path.absolute cwd)
    (textual : old.IsPathInput) (name : String) :
    (∀ u p q, Requests disk v old (.text name) u p q ↔
      u = v ∧ ∃ file, old.filePath? = some file ∧ disk.isFile v file = .ok true ∧
        IsName name ∧ p = Path.absolute cwd file ∧ q = p.parent.join name ∧ q ≠ p ∧
          isTaken disk v p q = .ok false) ∧
    (∀ u p q, Requests disk v old (.text name) u p q →
      q.parent = p.parent ∧ q.name = name ∧ q ≠ p) ∧
    (∀ r, (∀ p q, Requests disk v old (.text name) v p q → r v p q = disk.rename v p q) →
      renamePair (disk.withRename r) v old (.text name) =
        renamePair disk v old (.text name)) ∧
    ((∀ file, old.filePath? = some file → ∃ b, disk.isFile v file = .ok b) →
      ∀ dir : Path, dir.join name ≠ dir.child name ∨ name = ".." →
        ∃ detail, (renamePair disk v old (.text name)).outcome =
          .ok (⟨old, .text name, none, some .fileNotValid, detail⟩, v)) := by
  refine ⟨?_, ?_, ?_, fun answered dir => renamePair_refused textual answered⟩
  · intro u p q
    rw [requests_iff]
    exact and_congr_right fun _ => cleared_iff paths
  · intro u p q requested
    obtain ⟨-, cleared⟩ := requests_iff.mp requested
    obtain ⟨entry, different, -⟩ := cleared.entry
    rw [entry]
    exact ⟨Path.parent_child _ _, Path.name_child _ _, by rwa [← entry]⟩
  · intro r agree
    apply renamePair_congr
    intro p q cleared
    exact agree p q (requests_iff.mpr ⟨rfl, cleared⟩)

theorem renamePair_requests_photo :
    let photograph := Value.path ⟨.root, ["a"]⟩
    Requests (Disk.direct ⟨.root, []⟩) photo photograph (.text "b") photo ⟨.root, ["a"]⟩
        ⟨.root, ["b"]⟩ ∧
      ∃ detail, (renamePair (Disk.direct ⟨.root, []⟩) photo photograph (.text "/b")).outcome =
        .ok (⟨photograph, .text "/b", none, some .fileNotValid, detail⟩, photo) := by
  intro photograph
  have textual : photograph.IsPathInput := Or.inr ⟨_, rfl⟩
  have isFile : (Disk.direct ⟨.root, []⟩).isFile photo ⟨.root, ["a"]⟩ = .ok true :=
    congrArg Except.ok photo_isFile
  have source : photograph.filePath? = some ⟨.root, ["a"]⟩ := rfl
  constructor
  · apply ((renamePair_requests rfl textual "b").1 _ _ _).mpr
    refine ⟨rfl, ⟨.root, ["a"]⟩, source, isFile, by decide, by decide, by decide +kernel,
      by decide, ?_⟩
    exact free_root (by decide) (by decide) rfl
  · apply (renamePair_requests rfl textual "/b").2.2.2
    · intro file named
      exact ⟨_, direct_isFile _ _ _⟩
    · exact Or.inl (show (⟨.root, []⟩ : Path).join "/b" ≠ _ by decide +kernel)

end Rename

end MediaNaming
