import MediaNaming.Metadata.Record
import MediaNaming.Metadata.Tag
import MediaNaming.Proofs.Text.Trim
/-!
# The text of a tag

One value inside a tag is written out, however deep it lies, and its text loses white space first
and null characters then. White space behind null characters at an end is out of reach of the first
step and stays after the second. Every other text comes out with clean ends, or as nothing if there
is nothing else in it, and reading the outcome once more changes nothing.
-/

namespace MediaNaming

open Text (Bare isBlank trim)

variable {v : Value} {cs : List Char} {c : Char} {s t : String} {o : Option String}

/-! ## The margins of a text -/

namespace Text

/-- Whether a character is the null character. -/
def isNull (c : Char) : Bool :=
  decide (c = Char.ofNat 0)

/-- Whether a character belongs to a margin: white space and the null character. -/
def isMargin (c : Char) : Bool :=
  isBlank c || isNull c

theorem isNull_of_isBlank (blank : isBlank c = true) : isNull c = false := by
  apply decide_eq_false
  rintro rfl
  have solid : isBlank (Char.ofNat 0) = false := by decide +kernel
  rw [solid] at blank
  cases blank

/-- White space behind null characters in front of a text. -/
def HidesInFront (cs : List Char) : Prop :=
  ∃ nulls c rest, cs = nulls ++ c :: rest ∧ nulls ≠ [] ∧ (∀ d ∈ nulls, isNull d = true) ∧
    isBlank c = true

/-- White space behind null characters at one of the ends, once the ends are bare of white
space. -/
def HidesBlank (cs : List Char) : Prop :=
  HidesInFront (trim isBlank cs) ∨ HidesInFront (trim isBlank cs).reverse

/-- Dropping null characters uncovers white space in front just if it is hidden there. -/
theorem head?_trim_isNull (bare : Bare isBlank cs) :
    (∀ c ∈ (trim isNull cs).head?, isBlank c = false) ↔ ¬ HidesInFront cs := by
  constructor
  · rintro solid ⟨nulls, c, rest, rfl, -, inside, blank⟩
    obtain ⟨others, left⟩ := trim_cons_of_neg (isNull_of_isBlank blank) rest
    rw [trim_append_of_pos inside, left] at solid
    have uncovered := solid c rfl
    rw [blank] at uncovered
    cases uncovered
  · intro shown c first
    obtain ⟨nulls, back, split, inside, -⟩ := trim_split isNull cs
    obtain ⟨others, left⟩ := List.head?_eq_some_iff.mp first
    rw [left, List.cons_append] at split
    by_contra blank
    rw [Bool.not_eq_false] at blank
    refine shown ⟨nulls, c, others ++ back, split, ?_, inside, blank⟩
    rintro rfl
    have solid := bare.front c (by rw [split]; rfl)
    rw [blank] at solid
    cases solid

end Text

open Text (HidesBlank HidesInFront isMargin isNull)

namespace Tag

/-! ## Finishing a text -/

/-- What is left of a tag's text. -/
def kept (cs : List Char) : List Char :=
  trim isNull (trim isBlank cs)

theorem kept_bare (cs : List Char) : Bare isNull (kept cs) :=
  Text.trim_bare isNull _

/-- White space is left at an end just if it is hidden by null characters. -/
theorem kept_bare_iff : Bare isMargin (kept cs) ↔ ¬ HidesBlank cs := by
  have bare := Text.trim_bare isBlank cs
  have front := Text.head?_trim_isNull bare
  have back := Text.head?_trim_isNull bare.reverse
  rw [Text.trim_reverse, List.head?_reverse] at back
  rw [HidesBlank, not_or, ← front, ← back]
  constructor
  · intro clean
    have solid := (Text.bare_or_iff.mp clean).1
    exact ⟨solid.front, solid.back⟩
  · intro ⟨first, last⟩
    exact Text.bare_or_iff.mpr ⟨⟨first, last⟩, kept_bare cs⟩

/-- The margins of a text are the same after it has been finished. -/
theorem trim_kept (cs : List Char) : trim isMargin (kept cs) = trim isMargin cs := by
  rw [kept, Text.trim_trim_of_imp, Text.trim_trim_of_imp]
  · intro c blank
    rw [isMargin, blank, Bool.true_or]
  · intro c null
    rw [isMargin, null, Bool.or_true]

/-- A text without hidden white space loses its whole margins. -/
theorem kept_eq_trim (shown : ¬ HidesBlank cs) : kept cs = trim isMargin cs := by
  rw [← trim_kept, Text.trim_eq_self_iff.mpr (kept_bare_iff.mpr shown)]

/-- Finishing leaves a text alone just if it has no margins. -/
theorem kept_eq_self_iff : kept cs = cs ↔ Bare isMargin cs := by
  constructor
  · intro same
    have inner : trim isBlank cs = cs := by
      apply (Text.trim_sublist isBlank cs).antisymm
      conv_lhs => rw [← same]
      exact Text.trim_sublist isNull _
    have outer : trim isNull cs = cs := by
      rwa [kept, inner] at same
    exact Text.bare_or_iff.mpr
      ⟨Text.trim_eq_self_iff.mp inner, Text.trim_eq_self_iff.mp outer⟩
  · intro bare
    obtain ⟨solid, printed⟩ := Text.bare_or_iff.mp bare
    rw [kept, Text.trim_eq_self_iff.mpr solid, Text.trim_eq_self_iff.mpr printed]

theorem finish_eq (cs : List Char) :
    finish cs = if kept cs = [] then none else some (String.ofList (kept cs)) := by
  have same : Text.trim (fun c => decide (c = Char.ofNat 0)) (trim isBlank cs) = kept cs := rfl
  simp only [finish, same, List.isEmpty_iff]

theorem finish_eq_none_iff : finish cs = none ↔ kept cs = [] := by
  rw [finish_eq]
  split
  next empty => simp [empty]
  next filled => simp [filled]

theorem finish_eq_some_iff : finish cs = some s ↔ s.toList = kept cs ∧ s ≠ "" := by
  rw [finish_eq]
  split
  next empty =>
    rw [empty, String.toList_eq_nil_iff]
    simp
  next filled =>
    rw [Option.some_inj]
    constructor
    · rintro rfl
      simpa using filled
    · rintro ⟨same, -⟩
      rw [← same, String.ofList_toList]

/-- Text as it should come out of a tag: something, without margins. -/
structure IsClean (s : String) : Prop where
  filled : s ≠ ""
  bare : Bare isMargin s.toList

/-- A finished text is finished for good just if it is clean. -/
theorem finish_finished_iff (finished : finish cs = some s) :
    finish s.toList = some s ↔ IsClean s := by
  obtain ⟨-, filled⟩ := finish_eq_some_iff.mp finished
  rw [finish_eq_some_iff, eq_comm, kept_eq_self_iff]
  exact ⟨fun ⟨bare, _⟩ => ⟨filled, bare⟩, fun clean => ⟨clean.bare, filled⟩⟩

/-- Hidden white space is not lost, so something is left. -/
theorem not_hidden_of_finish_eq_none (finished : finish cs = none) : ¬ HidesBlank cs := by
  rw [← kept_bare_iff, finish_eq_none_iff.mp finished]
  exact Text.bare_nil isMargin

/-- A finished text is clean just if no white space was hidden. -/
theorem isClean_finish_iff : (∀ s ∈ finish cs, IsClean s) ↔ ¬ HidesBlank cs := by
  cases finished : finish cs with
  | none => simpa using not_hidden_of_finish_eq_none finished
  | some s =>
      obtain ⟨same, filled⟩ := finish_eq_some_iff.mp finished
      rw [← kept_bare_iff, ← same]
      constructor
      · intro clean
        exact (clean s rfl).bare
      · rintro bare s ⟨⟩
        exact ⟨filled, bare⟩

/-- Of margins alone nothing is left, unless they hide white space. -/
theorem finish_margins (margins : ∀ c ∈ cs, isMargin c = true) :
    finish cs = none ↔ ¬ HidesBlank cs := by
  constructor
  · exact not_hidden_of_finish_eq_none
  · intro shown
    rw [finish_eq_none_iff, kept_eq_trim shown, Text.trim_eq_nil_iff]
    exact margins

/-! ## The value that is written out -/

mutual

/-- The value inside a tag that is written out, if there is one: the first item of a sequence, and
what frames and wrappers carry. -/
def innermost : Value → Option Value
  | .list [] => none
  | .list (v :: _) => innermostItem v
  | .tuple [] => none
  | .tuple (v :: _) => innermostItem v
  | v => innermostItem v

/-- The value inside an item that is written out. A sequence among the items is written out as it
is. -/
def innermostItem : Value → Option Value
  | .null => none
  | .frame v => innermost v
  | .literal v => innermost v
  | .wrapper v => innermost v
  | v => some v

end

/-- The text of the value that is written out: the characters of octets, and the plain text of
all else. -/
def ownText : Value → Except Failure String
  | .octets bs => .ok (Text.Utf8.text bs)
  | w => w.wording

/-- The finished text of the value that is written out. -/
def innermostText (found : Option Value) : Except Failure (Option String) :=
  match found with
  | none => .ok none
  | some w => (ownText w).map fun s => finish s.toList

-- Structural over the value and its first item, as the two functions are.
mutual

theorem firstText_eq : (v : Value) → firstText v = innermostText (innermost v)
  | .list [] | .tuple [] => by simp [firstText, innermost, innermostText]
  | .list (v :: _) | .tuple (v :: _) => by simpa [firstText, innermost] using itemText_eq v
  | .frame v | .literal v | .wrapper v => by
      simpa [firstText, itemText, innermost, innermostItem] using firstText_eq v
  | .null | .octets _ | .bool _ | .int _ | .float _ | .text _ | .mapping _ | .path _
  | .stream _ _ | .key _ | .moment _ => by
      simp [firstText, itemText, innermost, innermostItem, innermostText, ownText,
        Text.Utf8.text, Except.map]

theorem itemText_eq : (v : Value) → itemText v = innermostText (innermostItem v)
  | .frame v | .literal v | .wrapper v => by
      simpa [itemText, innermostItem] using firstText_eq v
  | .null | .octets _ | .bool _ | .int _ | .float _ | .text _ | .list _ | .tuple _ | .mapping _
  | .path _ | .stream _ _ | .key _ | .moment _ => by
      simp [itemText, innermostItem, innermostText, ownText, Text.Utf8.text, Except.map]

end

/-- A tag has a text inside: that of the value that is written out. -/
def Inside (v : Value) (t : String) : Prop :=
  ∃ w, innermost v = some w ∧ ownText w = .ok t

/-- The text inside a tag is finished. -/
theorem firstText_of_inside (inside : Inside v t) : firstText v = .ok (finish t.toList) := by
  obtain ⟨w, found, written⟩ := inside
  rw [firstText_eq, found, innermostText, written]
  rfl

/-- A text comes only from inside. -/
theorem firstText_cases (returned : firstText v = .ok o) :
    (∃ t, Inside v t ∧ o = finish t.toList) ∨ ((∀ t, ¬ Inside v t) ∧ o = none) := by
  rw [firstText_eq] at returned
  cases found : innermost v with
  | none =>
      right
      rw [found] at returned
      refine ⟨?_, (Except.ok.inj returned).symm⟩
      rintro t ⟨w, other, -⟩
      rw [found] at other
      cases other
  | some w =>
      left
      rw [found, innermostText] at returned
      cases written : ownText w with
      | error f =>
          rw [written] at returned
          cases returned
      | ok t =>
          rw [written] at returned
          exact ⟨t, ⟨w, found, written⟩, (Except.ok.inj returned).symm⟩

theorem Inside.unique {u : String} (first : Inside v t) (second : Inside v u) : t = u := by
  obtain ⟨w, found, written⟩ := first
  obtain ⟨w', found', written'⟩ := second
  rw [found, Option.some_inj] at found'
  rw [← found', written] at written'
  exact Except.ok.inj written'

/-! ## Reading a tag -/

theorem firstText_text (s : String) : firstText (.text s) = .ok (finish s.toList) :=
  firstText_of_inside ⟨.text s, by simp [innermost, innermostItem], rfl⟩

theorem firstText_null : firstText .null = .ok none := by
  simp [firstText, itemText]

/-- The finished text stays as it is when it is read once more just if no white space was hidden. -/
theorem firstText_finish_iff :
    firstText (.ofText? (finish cs)) = .ok (finish cs) ↔ ¬ HidesBlank cs := by
  cases finished : finish cs with
  | none =>
      rw [Value.ofText?, firstText_null]
      simpa using not_hidden_of_finish_eq_none finished
  | some s =>
      rw [Value.ofText?, firstText_text, Except.ok.injEq, finish_finished_iff finished,
        ← isClean_finish_iff, finished]
      simp

/-- The text that comes out of a tag is not empty and has no null character at its ends. It is
clean, stays the same when it is read once more and is nothing for margins alone, each of them
just if the text inside hides no white space; what comes out is then the text inside without its
margins. From a tag with no text inside comes nothing. -/
theorem firstText_clean_iff (returned : firstText v = .ok o) :
    (∀ s ∈ o, s ≠ "" ∧ Bare isNull s.toList) ∧
      ((∀ t, ¬ Inside v t) → o = none) ∧
      ∀ t, Inside v t →
        ((∀ s ∈ o, IsClean s) ↔ ¬ HidesBlank t.toList) ∧
          (firstText (.ofText? o) = .ok o ↔ ¬ HidesBlank t.toList) ∧
          ((∀ c ∈ t.toList, isMargin c = true) → (o = none ↔ ¬ HidesBlank t.toList)) ∧
          (¬ HidesBlank t.toList →
            o = if trim isMargin t.toList = [] then none
              else some (String.ofList (trim isMargin t.toList))) := by
  rcases firstText_cases returned with ⟨t, inside, rfl⟩ | ⟨outside, rfl⟩
  · refine ⟨?_, fun outside => absurd inside (outside t), ?_⟩
    · intro s finished
      obtain ⟨same, filled⟩ := finish_eq_some_iff.mp finished
      rw [same]
      exact ⟨filled, kept_bare t.toList⟩
    · intro u other
      rw [← inside.unique other]
      refine ⟨isClean_finish_iff, firstText_finish_iff, finish_margins, ?_⟩
      intro shown
      rw [finish_eq, kept_eq_trim shown]
  · refine ⟨by simp, fun _ => rfl, ?_⟩
    intro t inside
    exact absurd inside (outside t)

/-- A text in several wrappings, with white space outside the null characters. -/
def wrappedTitle : Value :=
  .wrapper (.list [.frame (.tuple [.text "\t\x00Dawn\x00 ", .text "Dusk"])])

/-- The title comes out of its wrappings without margins. -/
theorem firstText_clean_wrappedTitle :
    firstText wrappedTitle = .ok (some "Dawn") ∧ Inside wrappedTitle "\t\x00Dawn\x00 " ∧
      (∀ s ∈ some "Dawn", IsClean s) ∧ firstText (.text "Dawn") = .ok (some "Dawn") := by
  have inside : Inside wrappedTitle "\t\x00Dawn\x00 " :=
    ⟨.text "\t\x00Dawn\x00 ", by simp [wrappedTitle, innermost, innermostItem], rfl⟩
  have left : kept "\t\x00Dawn\x00 ".toList = "Dawn".toList := by decide +kernel
  have returned : firstText wrappedTitle = .ok (some "Dawn") := by
    rw [firstText_of_inside inside, finish_eq_some_iff.mpr ⟨left.symm, by decide⟩]
  have shown : ¬ HidesBlank "\t\x00Dawn\x00 ".toList := by
    rw [← kept_bare_iff, left]
    have solid : ("Dawn".toList.all fun c => !isMargin c) = true := by decide +kernel
    exact Text.bare_of_none (by simpa using solid)
  obtain ⟨clean, again, -, -⟩ := (firstText_clean_iff returned).2.2 _ inside
  exact ⟨returned, inside, clean.mpr shown, again.mpr shown⟩

/-- White space behind a null character stays: in a title, where it goes only when the title is
read once more, and between two null characters, where nothing should be left. -/
theorem nullBehindBlank_kept :
    firstText (.list [.text "Dawn \x00"]) = .ok (some "Dawn ") ∧ ¬ IsClean "Dawn " ∧
      firstText (.text "Dawn ") = .ok (some "Dawn") ∧
      firstText (.list [.text "\x00 \x00"]) = .ok (some " ") := by
  have title : Inside (.list [.text "Dawn \x00"]) "Dawn \x00" :=
    ⟨.text "Dawn \x00", by simp [innermost, innermostItem], rfl⟩
  have blank : Inside (.list [.text "\x00 \x00"]) "\x00 \x00" :=
    ⟨.text "\x00 \x00", by simp [innermost, innermostItem], rfl⟩
  have once : finish "Dawn \x00".toList = some "Dawn " := by
    rw [finish_eq_some_iff]
    decide +kernel
  have twice : finish "Dawn ".toList = some "Dawn" := by
    rw [finish_eq_some_iff]
    decide +kernel
  have remaining : finish "\x00 \x00".toList = some " " := by
    rw [finish_eq_some_iff]
    decide +kernel
  rw [firstText_of_inside title, firstText_of_inside blank, firstText_text, once, twice, remaining,
    ← finish_finished_iff once, twice]
  decide

end Tag

end MediaNaming
