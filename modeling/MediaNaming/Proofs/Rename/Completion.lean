import MediaNaming.Proofs.Rename.Plain
/-!
# Which runs come to their end

A pair that is refused becomes a skip, and the run goes on. One refusal gets through: asking
whether anything stands at a destination fails if its name or its path is too long.
`execute_returns_iff` says that nothing else stops a run, for plans of any length.
-/

namespace MediaNaming.Rename

open MediaNaming.Path (IsName)

variable {disk : Disk} {cwd : Path} {v w : Volume} {old new : Value} {o : Outcome}
  {plan : Entries}

/-! ## Questions that are refused -/

/-- What can be followed holds no null character. -/
theorem clean_of_look {p : Path} {e : Entry} (found : v.look cwd p = .ok e) :
    Path.hasNull p.text = false := by
  cases null : Path.hasNull p.text with
  | false => rfl
  | true => simp [Volume.look, Volume.find, Volume.reach, null] at found

theorem clean_of_isFile {file : Path} (isFile : v.isFile cwd file = true) :
    Path.hasNull file.text = false := by
  simp only [Volume.isFile] at isFile
  split at isFile
  next e found => exact clean_of_look found
  next => cases isFile

/-- Taking a path from a working directory brings in no null character. -/
theorem clean_absolute (working : cwd.IsWorkingDirectory) {p : Path}
    (clean : Path.hasNull p.text = false) : Path.hasNull (Path.absolute cwd p).text = false := by
  rw [← Bool.not_eq_true, Path.hasNull_text] at clean ⊢
  rintro ⟨part, member, null⟩
  rcases (Path.mem_absolute_parts member).1 with outer | inner
  · have named := (working.named part outer).2.2.2.2
    rw [null] at named
    cases named
  · exact clean ⟨part, inner, null⟩

/-- Two paths without null characters can always be compared. -/
theorem sameFile?_returns {p q : Path} (clean : Path.hasNull p.text = false)
    (otherClean : Path.hasNull q.text = false) : ∃ b, v.sameFile? cwd p q = .ok b := by
  have noNull : ∀ path : Path, Path.hasNull path.text = false →
      v.find .followed cwd path ≠ .error .nullInPath := by
    intro path pathClean refused
    rcases Volume.find_error refused with ⟨-, null⟩ | impossible | impossible | impossible |
      impossible
    · rw [pathClean] at null
      cases null
    all_goals cases impossible
  simp only [Volume.sameFile?]
  split
  next refused => exact absurd refused (noNull p clean)
  next => exact ⟨_, rfl⟩
  next =>
    split
    next refused => exact absurd refused (noNull q otherClean)
    next => exact ⟨_, rfl⟩
    next => exact ⟨_, rfl⟩

/-- A refused renaming is one that the pair's turn absorbs, and it has words. -/
theorem rename?_error {p q : Path} {f : Failure} (failed : v.rename? cwd p q = .error f) :
    (f.kind.isSystem || f.kind.isValue) = true ∧ f.instead? = none := by
  simp only [Volume.rename?] at failed
  split at failed
  next =>
    cases failed
    exact ⟨rfl, rfl⟩
  next =>
    split at failed
    next => cases failed
    next c refused =>
      cases failed
      cases c <;> exact ⟨rfl, rfl⟩

/-! ## Turns -/

/-- Pairs of a plan as callers write it: a text or a path, and a text. -/
def IsTextual (pair : Value × Value) : Prop :=
  ((∃ s, pair.1 = .text s) ∨ ∃ p, pair.1 = .path p) ∧ ∃ name, pair.2 = .text name

/-- The destination of a pair that has passed every check up to then is too long to be asked
about. -/
def TooLong (v : Volume) (cwd : Path) (old new : Value) (destination : Path) : Prop :=
  ∃ file name, old.filePath? = some file ∧ v.isFile cwd file = true ∧ new = .text name ∧
    IsName name ∧ destination = (Path.absolute cwd file).parent.child name ∧
    destination ≠ Path.absolute cwd file ∧ v.look cwd destination = .error (.code .nameTooLong)

/-- On a tree of plain files, whose names are all within the limit, a destination is too long
exactly if its name has more octets than a name may have, or its path as many as no path may. -/
theorem tooLong_iff (plain : v.Plain) (working : cwd.IsWorkingDirectory)
    (fits : ∀ l e, v.entry? l = some e → ∀ part ∈ l, Volume.octetLength part ≤ Volume.nameLimit)
    (normal : IsNormalKey old) {file : Path} {name : String} (source : old.filePath? = some file)
    (isFile : v.isFile cwd file = true) (named : IsName name)
    (different : (Path.absolute cwd file).parent.child name ≠ Path.absolute cwd file) :
    (∃ p, TooLong v cwd old (.text name) p) ↔
      Volume.pathLimit ≤ Volume.octetLength ((Path.absolute cwd file).parent.child name).text ∨
        Volume.nameLimit < Volume.octetLength name := by
  rcases Volume.file_at_place plain.noLinks working (normal file source) isFile with
    ⟨id, -, there⟩
  have anchored : ((Path.absolute cwd file).parent.child name).anchor ≠ .relative :=
    Path.absolute_anchor working file
  have clean := clean_absolute working (clean_of_isFile isFile)
  cases place : (Path.absolute cwd file).place with
  | nil =>
      rw [place] at there
      simp at there
  | cons last dir =>
      rw [place] at there
      have parts : (Path.absolute cwd file).parts = dir.reverse ++ [last] := by
        rw [← List.reverse_reverse (Path.absolute cwd file).parts]
        exact (congrArg List.reverse place).trans List.reverse_cons
      have beside : ((Path.absolute cwd file).parent.child name).parts = dir.reverse ++ [name] := by
        simp [Path.parent, Path.child, parts]
      have besideClean :
          Path.hasNull ((Path.absolute cwd file).parent.child name).text = false := by
        rw [← Bool.not_eq_true, Path.hasNull_text] at clean ⊢
        rintro ⟨part, member, null⟩
        rw [beside] at member
        rcases List.mem_append.mp member with above | new
        · apply clean
          refine ⟨part, ?_, null⟩
          rw [parts]
          exact List.mem_append_left _ above
        · rw [List.mem_singleton.mp new, named.2.2.2.2] at null
          cases null
      have directory := plain.wellFormed.directory_above there
      have refusedIff : v.look cwd ((Path.absolute cwd file).parent.child name) =
          .error (.code .nameTooLong) ↔ _ :=
        Volume.look_tooLong_iff plain.wellFormed (fits dir _ directory) directory
          (fun target => Volume.entry?_ne_link plain.noLinks target) named anchored beside
          besideClean
      rw [← refusedIff]
      constructor
      · rintro ⟨p, path, other, names, -, given, -, rfl, -, refused⟩
        rw [source] at names
        cases names
        cases given
        exact refused
      · intro refused
        exact ⟨_, file, name, source, isFile, rfl, named, rfl, different, refused⟩

theorem skip_returns (textual : IsTextual (old, new)) (reason : SkipReason) (detail : String) :
    ∃ o, (skip v old new reason detail).outcome = .ok (o, v) := by
  rcases textual with ⟨⟨s, rfl⟩ | ⟨p, rfl⟩, name, rfl⟩
  · exact ⟨_, rfl⟩
  · exact ⟨_, rfl⟩

theorem moveFile_returns {name : String} (textual : IsTextual (old, .text name)) (p q : Path) :
    ∃ o w, (moveFile (Disk.direct cwd) v old name p q).outcome = .ok (o, w) := by
  simp only [moveFile]
  split
  next f refused =>
    obtain ⟨absorbed, worded⟩ := rename?_error refused
    rw [absorbed, worded]
    rcases skip_returns textual .renameError f.text with ⟨o, returned⟩
    exact ⟨o, v, returned⟩
  next w accepted => exact ⟨_, w, rfl⟩

/-- Whether a destination is taken can be told unless it is too long. -/
theorem isTaken_returns (v : Volume) {p : Path} (clean : Path.hasNull p.text = false)
    (q : Path) :
    (∃ b, isTaken (Disk.direct cwd) v p q = .ok b) ∨
      v.look cwd q = .error (.code .nameTooLong) := by
  rw [isTaken_direct]
  cases asked : v.exists? cwd q with
  | error f => exact Or.inr (Volume.ask_error asked).1
  | ok there =>
      apply Or.inl
      cases there with
      | false => exact ⟨false, rfl⟩
      | true =>
          have found : ∃ e, v.look cwd q = .ok e := by
            simp only [Volume.exists?, Volume.ask] at asked
            split at asked
            next e found => exact ⟨e, found⟩
            next => split at asked <;> cases asked
          rcases found with ⟨e, found⟩
          have comparable : ∃ same, v.sameFile? cwd p q = .ok same :=
            sameFile?_returns clean (clean_of_look found)
          rcases comparable with ⟨same, compared⟩
          exact ⟨!same, by rw [compared]; rfl⟩

theorem isTaken_tooLong {p q : Path} (refused : v.look cwd q = .error (.code .nameTooLong)) :
    isTaken (Disk.direct cwd) v p q = .error (.system .nameTooLong q.text none) := by
  have asked : v.exists? cwd q = .error (.system .nameTooLong q.text none) := by
    simp [Volume.exists?, Volume.ask, refused, Volume.Refusal.isAbsence, Volume.Refusal.failure]
  rw [isTaken_direct, asked]

/-- A turn returns unless its destination is too long. -/
theorem renamePair_returns (working : cwd.IsWorkingDirectory) (textual : IsTextual (old, new))
    (short : ∀ p, ¬TooLong v cwd old new p) :
    ∃ o w, (renamePair (Disk.direct cwd) v old new).outcome = .ok (o, w) := by
  have skips : ∀ reason detail,
      ∃ o w, (skip v old new reason detail).outcome = .ok (o, w) := by
    intro reason detail
    rcases skip_returns textual reason detail with ⟨o, returned⟩
    exact ⟨o, v, returned⟩
  cases source : old.filePath? with
  | none =>
      simp only [renamePair, source]
      exact skips _ _
  | some file =>
      have asked := direct_isFile cwd v file
      cases isFile : v.isFile cwd file with
      | false =>
          rw [isFile] at asked
          simp only [renamePair, source]
          rw [Log.Traced.ofExcept_bind_outcome _ asked]
          exact skips _ _
      | true =>
          rw [isFile] at asked
          cases bare : bareName new with
          | error objection =>
              simp only [renamePair, source]
              rw [Log.Traced.ofExcept_bind_outcome _ asked]
              simp only [↓reduceIte, bare]
              exact skips _ _
          | ok name =>
              rcases bareName_ok bare with ⟨rfl, named⟩
              by_cases different :
                  (Path.absolute cwd file).parent.child name ≠ Path.absolute cwd file
              · have clean := clean_absolute working (clean_of_isFile isFile)
                rw [renamePair_checked source asked named different]
                rcases isTaken_returns v clean ((Path.absolute cwd file).parent.child name) with
                  ⟨taken, checked⟩ | refused
                · rw [direct_absolute, checked]
                  cases taken with
                  | true => exact skips _ _
                  | false => exact moveFile_returns textual _ _
                · exact absurd
                    ⟨file, name, source, isFile, rfl, named, rfl, different, refused⟩ (short _)
              · rw [ne_eq, not_not] at different
                simp only [renamePair, source]
                rw [Log.Traced.ofExcept_bind_outcome _ asked]
                simp only [↓reduceIte, bare, renameFile, direct_absolute, different]
                exact skips _ _

/-- A turn whose destination is too long is stopped by the operating system's refusal. -/
theorem renamePair_tooLong {p : Path} (long : TooLong v cwd old new p) :
    (renamePair (Disk.direct cwd) v old new).outcome =
      .error (.system .nameTooLong p.text none) := by
  rcases long with ⟨file, name, source, isFile, rfl, named, rfl, different, refused⟩
  have asked : (Disk.direct cwd).isFile v file = .ok true := by
    rw [direct_isFile, isFile]
  rw [renamePair_checked source asked named different, direct_absolute, isTaken_tooLong refused]

/-! ## Runs -/

/-- What stops a run is what stopped one of its turns. -/
theorem renameAll_stopped {f : Failure} (stopped : (renameAll disk v plan).stop = some f) :
    ∃ before old new after, plan = before ++ (old, new) :: after ∧
      (renamePair disk (renameAll disk v before).volume old new).outcome = .error f := by
  induction plan generalizing v with
  | nil => cases stopped
  | cons pair rest ih =>
      rcases pair with ⟨old, new⟩
      cases first : (renamePair disk v old new).outcome with
      | error g =>
          simp only [renameAll, first] at stopped
          cases stopped
          exact ⟨[], old, new, rest, rfl, first⟩
      | ok turn =>
          rcases turn with ⟨o, w⟩
          simp only [renameAll, first] at stopped
          rcases ih stopped with ⟨before, old', new', after, rfl, failed⟩
          refine ⟨(old, new) :: before, old', new', after, rfl, ?_⟩
          simp only [renameAll, first]
          exact failed

/-- A turn that does not return stops the run. -/
theorem renameAll_stops (before after : Entries) {f : Failure}
    (failed : (renamePair disk (renameAll disk v before).volume old new).outcome = .error f) :
    (renameAll disk v (before ++ (old, new) :: after)).stop ≠ none := by
  induction before generalizing v with
  | nil =>
      have first : (renamePair disk v old new).outcome = .error f := failed
      simp [renameAll, first]
  | cons pair before ih =>
      rcases pair with ⟨old', new'⟩
      rw [List.cons_append]
      cases first : (renamePair disk v old' new').outcome with
      | error g => simp [renameAll, first]
      | ok turn =>
          rcases turn with ⟨o, w⟩
          simp only [renameAll, first] at failed ⊢
          exact ih failed

/-- A run answers every pair unless it comes to one whose destination is too long, and then the
refusal of that destination is what it ends with. -/
theorem execute_returns_iff (working : cwd.IsWorkingDirectory) (v : Volume)
    (textual : ∀ pair ∈ plan, IsTextual pair) :
    ((∃ outcomes, (execute (Disk.direct cwd) v (.mapping plan)).outcome = .ok outcomes ∧
        List.Forall₂ Answers plan outcomes) ↔
      ∀ before old new after, plan = before ++ (old, new) :: after →
        ∀ p, ¬TooLong (renameAll (Disk.direct cwd) v before).volume cwd old new p) ∧
    ∀ f, (execute (Disk.direct cwd) v (.mapping plan)).outcome = .error f →
      ∃ before old new after p, plan = before ++ (old, new) :: after ∧
        TooLong (renameAll (Disk.direct cwd) v before).volume cwd old new p ∧
        f = .system .nameTooLong p.text none := by
  have stoppedBy : ∀ f, (renameAll (Disk.direct cwd) v plan).stop = some f →
      ∃ before old new after p, plan = before ++ (old, new) :: after ∧
        TooLong (renameAll (Disk.direct cwd) v before).volume cwd old new p ∧
        f = .system .nameTooLong p.text none := by
    intro f stopped
    rcases renameAll_stopped stopped with ⟨before, old, new, after, split, failed⟩
    have pairTextual : IsTextual (old, new) := by
      apply textual
      simp [split]
    by_contra none
    have short : ∀ p, ¬TooLong (renameAll (Disk.direct cwd) v before).volume cwd old new p := by
      intro p long
      apply none
      refine ⟨before, old, new, after, p, split, long, ?_⟩
      rw [renamePair_tooLong long] at failed
      cases failed
      rfl
    rcases renamePair_returns working pairTextual short with ⟨o, w, returned⟩
    rw [returned] at failed
    cases failed
  rw [execute_outcome]
  cases ended : (renameAll (Disk.direct cwd) v plan).stop with
  | none =>
      refine ⟨?_, fun f failed => by cases failed⟩
      constructor
      · rintro - before old new after rfl p long
        exact renameAll_stops before after (renamePair_tooLong long) ended
      · intro short
        exact ⟨_, rfl, renameAll_answers ended⟩
  | some f =>
      rcases stoppedBy f ended with ⟨before, old, new, after, p, split, long, same⟩
      constructor
      · constructor
        · rintro ⟨outcomes, impossible, -⟩
          cases impossible
        · intro short
          exact absurd long (short before old new after split p)
      · intro g failed
        cases failed
        exact ⟨before, old, new, after, p, split, long, same⟩

theorem execute_returns_iff_photo :
    ∃ outcomes, (execute (Disk.direct ⟨.root, []⟩) photo
        (.mapping [(.path ⟨.root, ["a"]⟩, .text "b")])).outcome = .ok outcomes ∧
      List.Forall₂ Answers [(.path ⟨.root, ["a"]⟩, .text "b")] outcomes := by
  have working : Path.IsWorkingDirectory ⟨.root, []⟩ := by decide
  have textual : ∀ pair ∈ [(Value.path ⟨.root, ["a"]⟩, Value.text "b")], IsTextual pair := by
    intro pair member
    rcases List.mem_singleton.mp member with rfl
    exact ⟨Or.inr ⟨_, rfl⟩, _, rfl⟩
  have missing : photo.find .followed ⟨.root, []⟩ ⟨.root, ["b"]⟩ = .error (.code .missing) :=
    Volume.find_root_absent (by decide) (by decide) rfl
  have absent : photo.look ⟨.root, []⟩ ⟨.root, ["b"]⟩ = .error (.code .missing) := by
    simp [Volume.look, missing]
  apply (execute_returns_iff working photo textual).1.mpr
  intro before old new after split p long
  rcases List.append_eq_singleton_iff.mp split.symm with ⟨rfl, only⟩ | ⟨-, impossible⟩
  · cases only
    rcases long with ⟨file, name, source, -, given, -, rfl, -, refused⟩
    cases source
    cases given
    have sameRefusal := absent.symm.trans refused
    cases sameRefusal
  · cases impossible

/-- A name of so many letters. -/
def lettersName (count : Nat) : String :=
  String.ofList (List.replicate count 'x')

theorem mem_lettersName {c : Char} {count : Nat} (member : c ∈ (lettersName count).toList) :
    c = 'x' := by
  rw [lettersName, String.toList_ofList] at member
  exact List.eq_of_mem_replicate member

theorem octetLength_lettersName (count : Nat) :
    Volume.octetLength (lettersName count) = count := by
  have encoded : (Text.Utf8.encodeChar 'x').length = 1 := by decide
  simp [Volume.octetLength, Text.Utf8.octets, Text.Utf8.encode, lettersName, List.length_flatMap,
    encoded]

theorem lettersName_isName (count : Nat) : IsName (lettersName (count + 1)) := by
  have only : ∀ c ∈ (lettersName (count + 1)).toList, c = 'x' := fun c => mem_lettersName
  have differs : ∀ s : String, (∃ c ∈ s.toList, c ≠ 'x') → lettersName (count + 1) ≠ s := by
    rintro s ⟨c, member, different⟩ rfl
    exact different (only c member)
  refine ⟨?_, ?_, ?_, ?_, ?_⟩
  · intro same
    have lengths := congrArg Volume.octetLength same
    rw [octetLength_lettersName] at lengths
    cases lengths
  · exact differs "." ⟨'.', by decide, by decide⟩
  · exact differs ".." ⟨'.', by decide, by decide⟩
  · intro slash
    exact absurd (only _ slash) (by decide)
  · rw [Path.hasNull, ← Bool.not_eq_true, List.contains_iff_mem]
    intro null
    exact absurd (only _ null) (by decide)

/-- The pair that gives the first photo a name of one letter too many, and one that fits the
second. -/
def longPlan : Entries :=
  [(.path ⟨.root, ["a"]⟩, .text (lettersName 256)), (.path ⟨.root, ["b"]⟩, .text "c")]

/-- A name of 256 octets stops the run: the second pair never gets its turn. -/
theorem longPlan_stops :
    ¬∃ outcomes, (execute (Disk.direct ⟨.root, []⟩) twoPhotos (.mapping longPlan)).outcome =
      .ok outcomes := by
  have named := lettersName_isName 255
  have long : Volume.nameLimit < Volume.octetLength (lettersName 256) := by
    rw [octetLength_lettersName]
    decide
  have isFile : twoPhotos.isFile ⟨.root, []⟩ ⟨.root, ["a"]⟩ = true :=
    isFile_root (by decide) (by decide) rfl
  have absolute : Path.absolute ⟨.root, []⟩ ⟨.root, ["a"]⟩ = ⟨.root, ["a"]⟩ :=
    absolute_root (by decide)
  have different : (Path.absolute ⟨.root, []⟩ ⟨.root, ["a"]⟩).parent.child (lettersName 256) ≠
      Path.absolute ⟨.root, []⟩ ⟨.root, ["a"]⟩ := by
    rw [absolute]
    intro same
    have lengths := congrArg Volume.octetLength (List.cons.inj (Path.mk.inj same).2).1
    rw [octetLength_lettersName] at lengths
    cases lengths
  have plain : twoPhotos.Plain := by decide
  have normal : IsNormalKey (.path ⟨.root, ["a"]⟩) := by decide
  obtain ⟨p, tooLong⟩ := (tooLong_iff plain (by decide) (fits_of_entries (by decide)) normal rfl
    isFile named different).mpr (Or.inr long)
  have stopped : (renameAll (Disk.direct ⟨.root, []⟩) twoPhotos longPlan).stop ≠ none :=
    renameAll_stops [] _ (renamePair_tooLong tooLong)
  rintro ⟨outcomes, returned⟩
  rw [execute_outcome] at returned
  split at returned
  next => cases returned
  next ended => exact stopped ended

end MediaNaming.Rename
