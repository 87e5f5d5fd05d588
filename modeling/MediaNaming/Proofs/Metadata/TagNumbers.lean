import MediaNaming.Metadata.Tag
import MediaNaming.Proofs.Number.Decimal
import MediaNaming.Proofs.Outcome
import MediaNaming.Proofs.Text.Split
/-!
# Number tags that cannot be read

A text is taken for a number if digits are left of it without white space, and it is read by other
rules: only decimal digits are read, information separators are not white space, and the number of
digits has a limit. A text that passes the test and breaks the rules is misread. It does not count
as no number, as all other texts do, but is a failure. A year fails in the same way.
-/

namespace MediaNaming

open Text (isBlank isDecimal isDigit isDigitText isSeparatorControl trim)

variable {cs : List Char} {n : Nat} {s : String} {f : Failure} {o : Option Nat}

namespace Tag

/-! ## One number -/

/-- The number that a text writes between white space, if all that it writes is decimal digits. -/
def writtenNumber? (cs : List Char) : Option Nat :=
  if trim isBlank cs ≠ [] ∧ (trim isBlank cs).all isDecimal = true then
    some (Number.ofDigits (trim isBlank cs))
  else none

/-- A text that is taken for a number, but breaks a rule of reading: one of its digits is no decimal
digit, an information separator stands at one of its ends, or it has too many digits. -/
def Misread (cs : List Char) : Prop :=
  isDigitText (trim isBlank cs) = true ∧
    ((trim isBlank cs).all isDecimal = false ∨ cs.any isSeparatorControl = true ∨
      Number.digitLimit < (trim isBlank cs).length)

instance (cs : List Char) : Decidable (Misread cs) :=
  inferInstanceAs (Decidable (_ ∧ _))

theorem writtenNumber?_eq_some_iff : writtenNumber? cs = some n ↔
    (trim isBlank cs ≠ [] ∧ ∀ c ∈ trim isBlank cs, isDecimal c = true) ∧
      n = Number.ofDigits (trim isBlank cs) := by
  rw [writtenNumber?, ← List.all_eq_true]
  split
  next written =>
    rw [Option.some_inj, eq_comm]
    exact ⟨fun same => ⟨written, same⟩, And.right⟩
  next other => simp only [other, reduceCtorEq, false_and]

/-- Without information separators, padding is all white space. -/
theorem trim_isPadding_eq (plain : ∀ c ∈ cs, isSeparatorControl c = false) :
    trim Number.isPadding cs = trim isBlank cs := by
  apply Text.trim_congr
  intro c member
  rw [Number.isPadding, plain c member, Bool.not_false, Bool.and_true]

/-- A text that is read has no information separators. -/
theorem plain_of_read (returned : Number.read cs = .ok n) :
    ∀ c ∈ cs, isSeparatorControl c = false := by
  obtain ⟨-, decimal, -, -⟩ := Number.read_eq_ok_iff.mp returned
  obtain ⟨front, back, split, inside, behind⟩ := Text.trim_split Number.isPadding cs
  have padding : ∀ c, Number.isPadding c = true → isSeparatorControl c = false := by
    intro c padded
    rw [Number.isPadding, Bool.and_eq_true, Bool.not_eq_true'] at padded
    exact padded.2
  intro c member
  rw [split, List.mem_append, List.mem_append] at member
  rcases member with first | middle | last
  · exact padding c (inside c first)
  · have solid := Text.isBlank_of_isDigit (Text.isDigit_of_isDecimal (decimal c middle))
    rw [← Bool.not_eq_true]
    intro separates
    rw [Text.isBlank_of_isSeparatorControl separates] at solid
    cases solid
  · exact padding c (behind c last)

/-- What is read is what is written, within the rules. -/
theorem read_eq_ok_iff_written : Number.read cs = .ok n ↔
    writtenNumber? cs = some n ∧ (∀ c ∈ cs, isSeparatorControl c = false) ∧
      (trim isBlank cs).length ≤ Number.digitLimit := by
  rw [writtenNumber?_eq_some_iff]
  constructor
  · intro returned
    have plain := plain_of_read returned
    rw [Number.read_eq_ok_iff, trim_isPadding_eq plain] at returned
    obtain ⟨filled, decimal, fits, same⟩ := returned
    exact ⟨⟨⟨filled, decimal⟩, same⟩, plain, fits⟩
  · rintro ⟨⟨⟨filled, decimal⟩, same⟩, plain, fits⟩
    rw [Number.read_eq_ok_iff, trim_isPadding_eq plain]
    exact ⟨filled, decimal, fits, same⟩

/-- Decimal digits are digits. -/
theorem isDigitText_of_written (written : writtenNumber? cs = some n) :
    isDigitText (trim isBlank cs) = true := by
  obtain ⟨⟨filled, decimal⟩, -⟩ := writtenNumber?_eq_some_iff.mp written
  rw [isDigitText, Bool.and_eq_true, Bool.not_eq_true', List.isEmpty_eq_false_iff,
    List.all_eq_true]
  exact ⟨filled, fun c member => Text.isDigit_of_isDecimal (decimal c member)⟩

/-- A text that is not misread keeps all rules if it is taken for a number. -/
theorem not_misread_iff (digits : isDigitText (trim isBlank cs) = true) : ¬ Misread cs ↔
    (∀ c ∈ trim isBlank cs, isDecimal c = true) ∧ (∀ c ∈ cs, isSeparatorControl c = false) ∧
      (trim isBlank cs).length ≤ Number.digitLimit := by
  simp [Misread, digits]

/-- A text that is not misread counts as the number that it writes, or as none. -/
theorem number?_of_not_misread (readable : ¬ Misread cs) :
    number? cs = .ok (writtenNumber? cs) := by
  rw [number?]
  split
  next digits =>
    obtain ⟨decimal, plain, fits⟩ := (not_misread_iff digits).mp readable
    have filled : trim isBlank cs ≠ [] := by
      intro empty
      rw [empty] at digits
      cases digits
    have written := writtenNumber?_eq_some_iff.mpr ⟨⟨filled, decimal⟩, rfl⟩
    rw [read_eq_ok_iff_written.mpr ⟨written, plain, fits⟩, written]
  next other =>
    cases written : writtenNumber? cs with
    | none => rfl
    | some n => exact absurd (isDigitText_of_written written) other

/-- A text that is misread is no number, but not a lack of one either. -/
theorem number?_of_misread (misread : Misread cs) :
    ∃ flaw, number? cs = .error (.number flaw) := by
  rw [number?, if_pos misread.1]
  cases returned : Number.read cs with
  | error flaw => exact ⟨flaw, rfl⟩
  | ok n =>
      obtain ⟨written, plain, fits⟩ := read_eq_ok_iff_written.mp returned
      have decimal := (writtenNumber?_eq_some_iff.mp written).1.2
      exact absurd misread ((not_misread_iff misread.1).mpr ⟨decimal, plain, fits⟩)

/-! ## A number and a total -/

/-- The text in front of the first slash. -/
def numberPart (s : String) : List Char :=
  s.toList.takeWhile (· ≠ '/')

/-- The text between the first slash and the second. It is empty if there is no slash. -/
def totalPart (s : String) : List Char :=
  ((s.toList.dropWhile (· ≠ '/')).drop 1).takeWhile (· ≠ '/')

/-- The number and the total that a text writes. -/
def writtenNumbers (s : String) : Option Nat × Option Nat :=
  (writtenNumber? (numberPart s), writtenNumber? (totalPart s))

/-- A text with a part that is misread. -/
def MisreadNumbers (s : String) : Prop :=
  Misread (numberPart s) ∨ Misread (totalPart s)

instance (s : String) : Decidable (MisreadNumbers s) :=
  inferInstanceAs (Decidable (_ ∨ _))

/-- The two parts are read one after the other. -/
theorem slashNumbers_eq (s : String) : slashNumbers s = do
    return (← number? (numberPart s), ← number? (totalPart s)) := by
  rw [slashNumbers, Text.splitOn_eq, numberPart, totalPart]
  cases s.toList.dropWhile (· ≠ '/') with
  | nil => rfl
  | cons slash rest =>
      have pieces := Text.splitOn_eq '/' rest
      simp only [pieces, List.drop_one, List.tail_cons]

theorem slashNumbers_of_not_misread (readable : ¬ MisreadNumbers s) :
    slashNumbers s = .ok (writtenNumbers s) := by
  obtain ⟨first, second⟩ := not_or.mp readable
  rw [slashNumbers_eq, number?_of_not_misread first, number?_of_not_misread second]
  rfl

theorem slashNumbers_of_misread (misread : MisreadNumbers s) :
    ∃ flaw, slashNumbers s = .error (.number flaw) := by
  rw [slashNumbers_eq]
  by_cases first : Misread (numberPart s)
  · obtain ⟨flaw, failed⟩ := number?_of_misread first
    exact ⟨flaw, bind_error_iff.mpr (.inl failed)⟩
  · obtain ⟨flaw, failed⟩ := number?_of_misread (misread.resolve_left first)
    refine ⟨flaw, bind_error_iff.mpr (.inr ⟨_, number?_of_not_misread first, ?_⟩)⟩
    exact bind_error_iff.mpr (.inl failed)

theorem slashNumbers_eq_ok_iff {r : Option Nat × Option Nat} :
    slashNumbers s = .ok r ↔ ¬ MisreadNumbers s ∧ r = writtenNumbers s := by
  by_cases misread : MisreadNumbers s
  · obtain ⟨flaw, failed⟩ := slashNumbers_of_misread misread
    simp [failed, misread]
  · simp [slashNumbers_of_not_misread misread, misread, eq_comm]

/-! ## A year -/

/-- A date without a year that can be read: its first four characters are digits, but not all of
them are decimal digits. -/
structure UndecodableYear (date : String) : Prop where
  long : (date.toList.take 4).length = 4
  digits : ∀ c ∈ date.toList.take 4, isDigit c = true
  other : ¬ ∀ c ∈ date.toList.take 4, isDecimal c = true

theorem front_of_digits (long : (s.toList.take 4).length = 4)
    (digits : ∀ c ∈ s.toList.take 4, isDigit c = true) :
    s.toList.take 4 ≠ [] ∧
      (decide ((s.toList.take 4).length = 4) && isDigitText (s.toList.take 4)) = true := by
  have filled : s.toList.take 4 ≠ [] := by
    intro none
    rw [none] at long
    cases long
  rw [long, isDigitText, List.isEmpty_eq_false_iff.mpr filled, List.all_eq_true.mpr digits]
  exact ⟨filled, rfl⟩

/-- Four decimal digits in front of a date are its year. -/
theorem year_of_decimal (long : (s.toList.take 4).length = 4)
    (decimal : ∀ c ∈ s.toList.take 4, isDecimal c = true) :
    year s = .ok (some (Number.ofDigits (s.toList.take 4))) := by
  obtain ⟨filled, front⟩ := front_of_digits long fun c member =>
    Text.isDigit_of_isDecimal (decimal c member)
  have fits : (s.toList.take 4).length ≤ Number.digitLimit := by
    rw [long]
    decide
  simp only [year, front, if_true, Number.read_of_isDecimal filled decimal fits]

theorem year_of_undecodable (undecodable : UndecodableYear s) :
    year s = .error (.number (.malformed (String.ofList (s.toList.take 4)))) := by
  obtain ⟨long, digits, mixed⟩ := undecodable
  obtain ⟨-, front⟩ := front_of_digits long digits
  have fits : (s.toList.take 4).length ≤ Number.digitLimit := by
    rw [long]
    decide
  simp only [year, front, if_true, Number.read_of_isDigit digits mixed fits]

theorem year_of_not_digits
    (other : ¬ ((s.toList.take 4).length = 4 ∧ ∀ c ∈ s.toList.take 4, isDigit c = true)) :
    year s = .ok none := by
  simp only [year]
  rw [if_neg]
  intro front
  rw [Bool.and_eq_true, decide_eq_true_eq, isDigitText, Bool.and_eq_true] at front
  exact other ⟨front.1, List.all_eq_true.mp front.2.2⟩

/-- The one failure of reading a year is a front of digits that are not all decimal digits. -/
theorem year_error_iff :
    year s = .error f ↔
      f = .number (.malformed (String.ofList (s.toList.take 4))) ∧ UndecodableYear s := by
  constructor
  · intro refused
    by_cases front : (s.toList.take 4).length = 4 ∧ ∀ c ∈ s.toList.take 4, isDigit c = true
    · by_cases decimal : ∀ c ∈ s.toList.take 4, isDecimal c = true
      · rw [year_of_decimal front.1 decimal] at refused
        cases refused
      · have undecodable : UndecodableYear s := ⟨front.1, front.2, decimal⟩
        rw [year_of_undecodable undecodable] at refused
        cases refused
        exact ⟨rfl, undecodable⟩
    · rw [year_of_not_digits front] at refused
      cases refused
  · rintro ⟨rfl, undecodable⟩
    exact year_of_undecodable undecodable

/-- The year that a date starts with, if its first four characters are decimal digits. -/
def writtenYear? (s : String) : Option Nat :=
  if (s.toList.take 4).length = 4 ∧ (s.toList.take 4).all isDecimal = true then
    some (Number.ofDigits (s.toList.take 4))
  else none

/-- A year that can be read at all is read as it is written. -/
theorem year_of_not_undecodable (decodable : ¬ UndecodableYear s) :
    year s = .ok (writtenYear? s) := by
  rw [writtenYear?]
  split
  next written => exact year_of_decimal written.1 (List.all_eq_true.mp written.2)
  next other =>
    apply year_of_not_digits
    rintro ⟨long, digits⟩
    exact decodable ⟨long, digits, fun decimal => other ⟨long, List.all_eq_true.mpr decimal⟩⟩

theorem year_eq_ok_iff : year s = .ok o ↔ ¬ UndecodableYear s ∧ o = writtenYear? s := by
  by_cases undecodable : UndecodableYear s
  · simp [year_of_undecodable undecodable, undecodable]
  · simp [year_of_not_undecodable undecodable, undecodable, eq_comm]

end Tag

end MediaNaming
