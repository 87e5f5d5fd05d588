import MediaNaming.Proofs.Ordinary
/-!
# Who can interrupt a renaming

The turn of a pair asks the file system up to four questions: whether the source is a file,
whether anything stands at the destination, whether that is the source itself, and at last to
rename. The user's wish to stop in place of an answer, or in the place of the words of an absorbed
failure, ends the run; nothing else in a turn tells of this wish.
-/

namespace MediaNaming

namespace Rename

open MediaNaming.Path (IsName)

variable {disk : Disk} {v : Volume} {old new : Value} {plan : Entries} {file p q : Path}
  {name : String} {f : Failure}

/-- A pair whose source is a file, and whose new name is acceptable and another one. -/
structure Checked (disk : Disk) (v : Volume) (old new : Value) (file : Path) (name : String) :
    Prop where
  source : old.filePath? = some file
  isFile : disk.isFile v file = .ok true
  given : new = .text name
  named : IsName name
  different : (disk.absolute file).parent.child name ≠ disk.absolute file

/-- A question in the turn of a pair that the file system answers with a failure. -/
inductive Refused (disk : Disk) (v : Volume) (old new : Value) (f : Failure) : Prop where
  | isFile {file : Path} (source : old.filePath? = some file)
      (refused : disk.isFile v file = .error f)
  | isThere {file : Path} {name : String} (checked : Checked disk v old new file name)
      (refused : disk.isThere v ((disk.absolute file).parent.child name) = .error f)
  | sameFile {file : Path} {name : String} (checked : Checked disk v old new file name)
      (there : disk.isThere v ((disk.absolute file).parent.child name) = .ok true)
      (refused : disk.sameFile v (disk.absolute file)
        ((disk.absolute file).parent.child name) = .error f)
  | rename {file : Path} {name : String} (checked : Checked disk v old new file name)
      (free : isTaken disk v (disk.absolute file)
        ((disk.absolute file).parent.child name) = .ok false)
      (refused : disk.rename v (disk.absolute file)
        ((disk.absolute file).parent.child name) = .error f)
  | wordless {file : Path} {name : String} {g : Failure}
      (checked : Checked disk v old new file name)
      (free : isTaken disk v (disk.absolute file)
        ((disk.absolute file).parent.child name) = .ok false)
      (refused : disk.rename v (disk.absolute file)
        ((disk.absolute file).parent.child name) = .error g)
      (absorbed : (g.kind.isSystem || g.kind.isValue) = true) (untold : g.instead? = some f)

/-! ## One pair -/

theorem skip_ordinary (reason : SkipReason) (detail : String) :
    Ordinary (skip v old new reason detail).outcome := by
  unfold skip
  apply Ordinary.bind_traced (Value.orTooLong_ordinary _)
  intro source
  apply Ordinary.bind_traced (Value.orTooLong_ordinary _)
  intro target
  exact .ok _

theorem isTaken_error_iff : isTaken disk v p q = .error f ↔
    disk.isThere v q = .error f ∨
      disk.isThere v q = .ok true ∧ disk.sameFile v p q = .error f := by
  unfold isTaken
  cases disk.isThere v q with
  | error g => simp [bind, Except.bind]
  | ok there =>
      cases there with
      | false => simp [bind, Except.bind, pure, Except.pure]
      | true => cases disk.sameFile v p q <;> simp [bind, Except.bind, pure, Except.pure]

/-- The file system's wish to stop is none of its refusals, but may come in the place of the words
of one. -/
theorem moveFile_interrupt_iff (interrupt : f.isInterrupt = true) :
    (moveFile disk v old name p q).outcome = .error f ↔
      disk.rename v p q = .error f ∨
        ∃ g, disk.rename v p q = .error g ∧ (g.kind.isSystem || g.kind.isValue) = true ∧
          g.instead? = some f := by
  have wish : f.kind = .interrupt := by simpa [Failure.isInterrupt] using interrupt
  unfold moveFile
  cases asked : disk.rename v p q with
  | ok w => simp
  | error g =>
      simp only [Except.error.injEq, exists_eq_left']
      by_cases absorbed : (g.kind.isSystem || g.kind.isValue) = true
      · have other : g ≠ f := by
          rintro rfl
          rw [wish] at absorbed
          cases absorbed
        simp only [other, absorbed, true_and, false_or]
        cases g.instead? with
        | some h => simp [Log.Traced.fail]
        | none => simpa using (skip_ordinary _ _).ne_error interrupt
      · rw [if_neg absorbed]
        simp [Log.Traced.fail, absorbed]

/-- A pair that is not acceptable is skipped once it is known whether its source is a file. -/
theorem renamePair_of_not_checked {isFile : Bool} (source : old.filePath? = some file)
    (asked : disk.isFile v file = .ok isFile)
    (unchecked : ∀ name, ¬Checked disk v old new file name) :
    Ordinary (renamePair disk v old new).outcome := by
  simp only [renamePair, source]
  rw [Log.Traced.ofExcept_bind_outcome _ asked]
  cases isFile with
  | false => exact skip_ordinary _ _
  | true =>
      cases bare : bareName new with
      | error objection => exact skip_ordinary _ _
      | ok name =>
          obtain ⟨rfl, named⟩ := bareName_ok bare
          have same : (disk.absolute file).parent.child name = disk.absolute file := by
            apply Decidable.byContradiction
            intro different
            exact unchecked name ⟨source, asked, rfl, named, different⟩
          simp only [↓reduceIte, renameFile, same]
          exact skip_ordinary _ _

/-- A pair that is acceptable is renamed unless its destination is taken. -/
theorem Checked.interrupt_iff (checked : Checked disk v old new file name)
    (interrupt : f.isInterrupt = true) :
    (renamePair disk v old new).outcome = .error f ↔
      isTaken disk v (disk.absolute file) ((disk.absolute file).parent.child name) = .error f ∨
        isTaken disk v (disk.absolute file) ((disk.absolute file).parent.child name) = .ok false ∧
          (disk.rename v (disk.absolute file) ((disk.absolute file).parent.child name) =
              .error f ∨
            ∃ g, disk.rename v (disk.absolute file) ((disk.absolute file).parent.child name) =
                .error g ∧ (g.kind.isSystem || g.kind.isValue) = true ∧ g.instead? = some f) := by
  obtain ⟨source, isFile, rfl, named, different⟩ := checked
  rw [renamePair_checked source isFile named different]
  cases isTaken disk v (disk.absolute file) ((disk.absolute file).parent.child name) with
  | error g => simp
  | ok taken =>
      cases taken with
      | true => simpa using (skip_ordinary _ _).ne_error interrupt
      | false => simpa using moveFile_interrupt_iff interrupt

/-- The turn of a pair is interrupted exactly if the file system interrupts when it is asked. -/
theorem renamePair_interrupt_iff (interrupt : f.isInterrupt = true) :
    (renamePair disk v old new).outcome = .error f ↔ Refused disk v old new f := by
  constructor
  · intro failed
    cases source : old.filePath? with
    | none =>
        simp only [renamePair, source] at failed
        exact absurd failed ((skip_ordinary _ _).ne_error interrupt)
    | some file =>
        cases asked : disk.isFile v file with
        | error g =>
            simp only [renamePair, source, asked] at failed
            cases failed
            exact .isFile source asked
        | ok isFile =>
            by_cases acceptable : ∃ name, Checked disk v old new file name
            · obtain ⟨name, checked⟩ := acceptable
              rcases (checked.interrupt_iff interrupt).mp failed with
                unanswered | ⟨free, refused | ⟨g, refused, absorbed, untold⟩⟩
              · rcases isTaken_error_iff.mp unanswered with there | ⟨there, same⟩
                · exact .isThere checked there
                · exact .sameFile checked there same
              · exact .rename checked free refused
              · exact .wordless checked free refused absorbed untold
            · have skipped := renamePair_of_not_checked source asked (not_exists.mp acceptable)
              exact absurd failed (skipped.ne_error interrupt)
  · intro refused
    cases refused with
    | isFile source refused =>
        simp only [renamePair, source, refused]
        rfl
    | isThere checked refused =>
        apply (checked.interrupt_iff interrupt).mpr
        exact Or.inl (isTaken_error_iff.mpr (Or.inl refused))
    | sameFile checked there refused =>
        apply (checked.interrupt_iff interrupt).mpr
        exact Or.inl (isTaken_error_iff.mpr (Or.inr ⟨there, refused⟩))
    | rename checked free refused =>
        apply (checked.interrupt_iff interrupt).mpr
        exact Or.inr ⟨free, Or.inl refused⟩
    | wordless checked free refused absorbed untold =>
        apply (checked.interrupt_iff interrupt).mpr
        exact Or.inr ⟨free, Or.inr ⟨_, refused, absorbed, untold⟩⟩

/-! ## Runs -/

/-- A run fails exactly if some turn does behind turns that all return, and with the failure of
this turn. -/
theorem renameAll_stop_iff : (renameAll disk v plan).stop = some f ↔
    ∃ before old new after, plan = before ++ (old, new) :: after ∧
      (renameAll disk v before).stop = none ∧
      (renamePair disk (renameAll disk v before).volume old new).outcome = .error f := by
  induction plan generalizing v with
  | nil =>
      constructor
      · intro stopped
        cases stopped
      · rintro ⟨before, old, new, after, split, -, -⟩
        cases before <;> cases split
  | cons pair rest ih =>
      obtain ⟨old, new⟩ := pair
      cases first : (renamePair disk v old new).outcome with
      | error g =>
          simp only [renameAll, first]
          constructor
          · intro same
            cases same
            exact ⟨[], old, new, rest, rfl, rfl, first⟩
          · rintro ⟨before, old', new', after, split, ended, failed⟩
            cases before with
            | nil =>
                cases split
                exact congrArg some (Except.error.inj (first.symm.trans failed))
            | cons other before =>
                cases split
                simp only [renameAll, first] at ended
                cases ended
      | ok turn =>
          obtain ⟨o, w⟩ := turn
          simp only [renameAll, first]
          rw [ih]
          constructor
          · rintro ⟨before, old', new', after, rfl, ended, failed⟩
            refine ⟨(old, new) :: before, old', new', after, rfl, ?_, ?_⟩
            · simpa only [renameAll, first] using ended
            · simpa only [renameAll, first] using failed
          · rintro ⟨before, old', new', after, split, ended, failed⟩
            cases before with
            | nil =>
                cases split
                have impossible := first.symm.trans failed
                cases impossible
            | cons other before =>
                cases split
                simp only [renameAll, first] at ended failed
                exact ⟨before, old', new', after, rfl, ended, failed⟩

end Rename

end MediaNaming
