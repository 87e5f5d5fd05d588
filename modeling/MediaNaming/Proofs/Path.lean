import MediaNaming.Path
import MediaNaming.Proofs.Text.Split
/-!
# Absolute paths and the texts of paths

Taking a path from a working directory and undoing every `..` is one walk down and up a stack of
names. The names of an absolute path are therefore the place that the names of the path lead to
from the working directory, and none of them is `..`.

A path that has been read from a text has a text of its own, which may be another one: slashes and
dots that mean nothing are left out. Reading this text gives the same path.
-/

namespace MediaNaming.Path

/-- Texts that can name an entry of a directory. -/
def IsName (s : String) : Prop :=
  s ≠ "" ∧ s ≠ "." ∧ s ≠ ".." ∧ '/' ∉ s.toList ∧ hasNull s = false

instance (s : String) : Decidable (IsName s) :=
  inferInstanceAs (Decidable (_ ∧ _ ∧ _ ∧ _ ∧ _))

/-- Paths as reading gives them: no part of them is one that reading drops. -/
def IsNormal (p : Path) : Prop :=
  ∀ part ∈ p.parts, part ≠ "" ∧ part ≠ "."

instance (p : Path) : Decidable p.IsNormal :=
  inferInstanceAs (Decidable (∀ part ∈ p.parts, part ≠ "" ∧ part ≠ "."))

theorem ofText_isNormal (s : String) : (ofText s).IsNormal := by
  intro part member
  simpa using (List.mem_filter.mp member).2

/-- Directories that a program can run in. -/
structure IsWorkingDirectory (cwd : Path) : Prop where
  anchored : cwd.anchor ≠ .relative
  named : ∀ part ∈ cwd.parts, IsName part

instance (cwd : Path) : Decidable cwd.IsWorkingDirectory :=
  decidable_of_iff (cwd.anchor ≠ .relative ∧ ∀ part ∈ cwd.parts, IsName part)
    ⟨fun laws => ⟨laws.1, laws.2⟩, fun working => ⟨working.anchored, working.named⟩⟩

/-! ## Going down and up -/

/-- The stack of names, innermost first, that names lead to from another. -/
def descend (back names : List String) : List String :=
  names.foldl (fun back name => if name = ".." then back.tail else name :: back) back

theorem descend_append (back names rest : List String) :
    descend back (names ++ rest) = descend (descend back names) rest := by
  simp [descend]

/-- Without a `..` each name leads one step down. -/
theorem descend_of_no_up (back : List String) {names : List String} (noUp : ".." ∉ names) :
    descend back names = names.reverse ++ back := by
  induction names generalizing back with
  | nil => rfl
  | cons name names ih =>
      simp only [List.mem_cons, not_or] at noUp
      have step : descend back (name :: names) = descend (name :: back) names := by
        simp [descend, Ne.symm noUp.1]
      rw [step, ih (name :: back) noUp.2]
      simp

/-- Only names that are no `..` are put on the stack. -/
theorem mem_descend {back names : List String} {name : String}
    (member : name ∈ descend back names) : name ∈ back ∨ (name ∈ names ∧ name ≠ "..") := by
  induction names generalizing back with
  | nil => exact Or.inl member
  | cons first names ih =>
      have step : descend back (first :: names) =
          descend (if first = ".." then back.tail else first :: back) names := rfl
      rw [step] at member
      rcases ih member with onStack | ⟨later, notUp⟩
      · split at onStack
        next => exact Or.inl (List.mem_of_mem_tail onStack)
        next notUp =>
          rcases List.mem_cons.mp onStack with rfl | below
          · exact Or.inr ⟨List.mem_cons_self, notUp⟩
          · exact Or.inl below
      · exact Or.inr ⟨List.mem_cons_of_mem _ later, notUp⟩

/-- The last of the names is innermost, unless it is `..`. -/
theorem descend_concat (back names : List String) {name : String} (notUp : name ≠ "..") :
    descend back (names ++ [name]) = name :: descend back names := by
  simp [descend, notUp]

/-! ## Absolute paths -/

variable {cwd p : Path}

theorem absolute_anchor (working : cwd.IsWorkingDirectory) (p : Path) :
    (absolute cwd p).anchor ≠ .relative := by
  simp only [absolute]
  split
  next => exact working.anchored
  next anchored => exact anchored

theorem mem_absolute_parts {name : String} (member : name ∈ (absolute cwd p).parts) :
    (name ∈ cwd.parts ∨ name ∈ p.parts) ∧ name ≠ ".." := by
  simp only [absolute] at member
  split at member
  next =>
    rcases mem_descend (List.mem_reverse.mp member) with impossible | ⟨given, notUp⟩
    · cases impossible
    · exact ⟨List.mem_append.mp given, notUp⟩
  next =>
    rcases mem_descend (List.mem_reverse.mp member) with impossible | ⟨given, notUp⟩
    · cases impossible
    · exact ⟨Or.inr given, notUp⟩

theorem absolute_no_up : ".." ∉ (absolute cwd p).parts := by
  intro member
  exact (mem_absolute_parts member).2 rfl

theorem absolute_isNormal (working : cwd.IsWorkingDirectory) (normal : p.IsNormal) :
    (absolute cwd p).IsNormal := by
  intro part member
  rcases (mem_absolute_parts member).1 with outer | inner
  · exact ⟨(working.named part outer).1, (working.named part outer).2.1⟩
  · exact normal part inner

/-- The names of an absolute path are the place that the path leads to. -/
theorem absolute_parts_reverse (working : cwd.IsWorkingDirectory) (p : Path) :
    (absolute cwd p).parts.reverse =
      descend (if p.anchor = .relative then cwd.parts.reverse else []) p.parts := by
  simp only [absolute]
  split
  next =>
    have noUp : ".." ∉ cwd.parts := fun member => (working.named _ member).2.2.1 rfl
    have descended : descend [] cwd.parts = cwd.parts.reverse := by
      simp [descend_of_no_up [] noUp]
    rw [← descended, ← descend_append]
    exact List.reverse_reverse _
  next => exact List.reverse_reverse _

theorem parent_child (dir : Path) (name : String) : (dir.child name).parent = dir := by
  simp [parent, child]

theorem name_child (dir : Path) (name : String) : (dir.child name).name = name := by
  simp [Path.name, child]

/-- Below a directory, the absolute path of a name is that of the directory with the name. -/
theorem absolute_child {name : String} (notUp : name ≠ "..") :
    absolute cwd (p.child name) = (absolute cwd p).child name := by
  by_cases relative : p.anchor = .relative <;>
    simp [absolute, child, collapse, relative, notUp]

/-- A `..` drops the name in front of it. -/
theorem absolute_up : absolute cwd (p.child "..") = (absolute cwd p).parent := by
  by_cases relative : p.anchor = .relative <;>
    simp [absolute, child, parent, collapse, relative, List.dropLast_reverse]

/-- An absolute path without `..` stays as it is. -/
theorem absolute_of_no_up (anchored : p.anchor ≠ .relative) (noUp : ".." ∉ p.parts) :
    absolute cwd p = p := by
  have collapsed : collapse p.parts = p.parts := by
    have descended := descend_of_no_up [] noUp
    rw [List.append_nil] at descended
    exact (congrArg List.reverse descended).trans (List.reverse_reverse p.parts)
  simp only [absolute, anchored, ↓reduceIte, collapsed]

/-! ## The null character -/

theorem hasNull_text (p : Path) :
    hasNull p.text = true ↔ ∃ part ∈ p.parts, hasNull part = true := by
  simp only [hasNull, List.contains_iff_mem]
  simp only [text]
  split
  next empty =>
    simp only [Bool.and_eq_true, List.isEmpty_iff] at empty
    simp [empty.2]
  next =>
    have slash : Char.ofNat 0 ∉ ("/" : String).toList := by decide
    have anchor : Char.ofNat 0 ∉ p.anchor.text.toList := by
      cases p.anchor <;> decide
    rw [String.toList_append, List.mem_append, Text.mem_joined_iff slash]
    simp [anchor]

/-! ## Reading the text of a path -/

/-- A slash in front of a text makes no part. -/
theorem partsOf_slash (s : String) : partsOf ("/" ++ s) = partsOf s := by
  have cut : Text.splitOn '/' ([] ++ '/' :: s.toList) = [] :: Text.splitOn '/' s.toList :=
    Text.splitOn_append_cons List.not_mem_nil
  rw [List.nil_append] at cut
  simp [partsOf, Text.pieces, cut]

theorem partsOf_anchor (anchor : Anchor) (s : String) : partsOf (anchor.text ++ s) = partsOf s := by
  cases anchor with
  | relative => rw [Anchor.text, String.empty_append]
  | root => exact partsOf_slash s
  | doubleRoot =>
      have twice : Anchor.doubleRoot.text ++ s = "/" ++ ("/" ++ s) := by
        rw [← String.append_assoc]
        rfl
      rw [twice, partsOf_slash, partsOf_slash]

/-- The parts of a path are the parts of its text. -/
theorem partsOf_joined (normal : p.IsNormal) (noSlash : ∀ part ∈ p.parts, '/' ∉ part.toList)
    (filled : p.parts ≠ []) : partsOf (Text.joined "/" p.parts) = p.parts := by
  have cut : Text.pieces '/' (Text.joined "/" p.parts) = p.parts :=
    Text.pieces_joined filled noSlash
  rw [partsOf, cut]
  apply List.filter_eq_self.mpr
  intro part member
  simpa using normal part member

/-- The joined parts of a path start with no slash. -/
theorem joined_takeWhile (normal : p.IsNormal) (noSlash : ∀ part ∈ p.parts, '/' ∉ part.toList) :
    (Text.joined "/" p.parts).toList.takeWhile (· = '/') = [] := by
  cases named : p.parts with
  | nil => rfl
  | cons first others =>
      have member : first ∈ p.parts := by
        rw [named]
        exact List.mem_cons_self
      have filled : first.toList ≠ [] := by simpa using (normal first member).1
      obtain ⟨c, cs, chars⟩ := List.exists_cons_of_ne_nil filled
      have notSlash : c ≠ '/' := by
        intro slash
        apply noSlash first member
        rw [chars, slash]
        exact List.mem_cons_self
      obtain ⟨more, joined⟩ := Text.joined_cons_toList "/" first others
      rw [joined, chars, List.cons_append, List.takeWhile_cons]
      simp [notSlash]

/-- A path is read from its text, if no part of it has a slash. -/
theorem ofText_text (normal : p.IsNormal) (noSlash : ∀ part ∈ p.parts, '/' ∉ part.toList) :
    ofText p.text = p := by
  by_cases filled : p.parts = []
  · cases p with
    | mk anchor parts =>
        change parts = [] at filled
        rw [filled]
        cases anchor <;> decide
  · have shape : p.text = p.anchor.text ++ Text.joined "/" p.parts := by
      simp [text, filled]
    have parts : partsOf p.text = p.parts := by
      rw [shape, partsOf_anchor, partsOf_joined normal noSlash filled]
    have slashes : p.text.toList.takeWhile (· = '/') = p.anchor.text.toList := by
      have after := joined_takeWhile normal noSlash
      rw [shape, String.toList_append]
      cases p.anchor with
      | relative => simpa [Anchor.text] using after
      | root => simp [Anchor.text, after]
      | doubleRoot => simp [Anchor.text, after]
    rw [ofText, slashes, parts]
    cases p with
    | mk anchor parts => cases anchor <;> simp [Anchor.text]

/-- A text without a slash is read as one name. -/
theorem ofText_of_no_slash {s : String} (filled : s ≠ "") (notDot : s ≠ ".")
    (inside : '/' ∉ s.toList) : ofText s = ⟨.relative, [s]⟩ := by
  have parts : partsOf s = [s] := by
    simp [partsOf, Text.pieces, Text.splitOn_of_not_mem inside, filled, notDot]
  have slashes : s.toList.takeWhile (· = '/') = [] := by
    cases chars : s.toList with
    | nil => rfl
    | cons first rest =>
        have other : first ≠ '/' := by
          intro slash
          rw [chars, slash] at inside
          exact inside List.mem_cons_self
        simp [other]
  simp [ofText, parts, slashes]

/-- Reading a path again from its text gives the same path. -/
theorem ofText_text_ofText (s : String) : ofText (ofText s).text = ofText s := by
  apply ofText_text (ofText_isNormal s)
  intro part member
  exact Text.not_mem_of_mem_pieces (List.mem_filter.mp member).1

end MediaNaming.Path
