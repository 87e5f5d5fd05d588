import MediaNaming.Number.Decimal
import MediaNaming.Proofs.Text.Trim
/-!
# Numbers read back as they are written

Writing a number puts one digit behind another, and reading takes them in the same order, so a
number within the limit of digits is read back. No digit, of any script, is white space: nothing
is trimmed from digits.
-/

namespace MediaNaming

open Text (decimalValue? isBlank isDecimal isDigit)

variable {c : Char} {cs : List Char} {d k n : Nat}

/-! ## Digits are not white space -/

namespace Text

/-- The characters that count as digits, as ranges of code points. -/
def digitRanges : List (Nat × Nat) :=
  digitZeros.map (fun z => (z, z + 9)) ++ otherDigits.ranges

theorem mem_digitRanges (digit : isDigit c = true) :
    ∃ r ∈ digitRanges, r.1 ≤ c.toNat ∧ c.toNat ≤ r.2 := by
  rw [isDigit, Bool.or_eq_true] at digit
  rcases digit with decimal | other
  · rw [isDecimal, decimalValue?, Option.isSome_map, List.find?_isSome] at decimal
    obtain ⟨z, listed, inside⟩ := decimal
    rw [Bool.and_eq_true, decide_eq_true_eq, decide_eq_true_eq] at inside
    refine ⟨(z, z + 9), ?_, inside⟩
    exact List.mem_append_left _ (List.mem_map.mpr ⟨z, listed, rfl⟩)
  · obtain ⟨r, listed, inside⟩ := CharSet.contains_iff.mp other
    exact ⟨r, List.mem_append_right _ listed, inside⟩

theorem isBlank_of_isDigit (digit : isDigit c = true) : isBlank c = false := by
  have apart : ∀ r ∈ digitRanges, ∀ s ∈ blanks.ranges, r.2 < s.1 ∨ s.2 < r.1 := by decide +kernel
  obtain ⟨r, digits, low, high⟩ := mem_digitRanges digit
  rw [← Bool.not_eq_true, isBlank, CharSet.contains_iff]
  rintro ⟨s, blank, above, below⟩
  have := apart r digits s blank
  omega

/-- Information separators are white space. -/
theorem isBlank_of_isSeparatorControl (separates : isSeparatorControl c = true) :
    isBlank c = true := by
  rw [isSeparatorControl, Bool.and_eq_true, decide_eq_true_eq, decide_eq_true_eq] at separates
  exact CharSet.contains_iff.mpr ⟨(28, 32), by decide, separates.1, Nat.le_succ_of_le separates.2⟩

end Text

namespace Number

/-! ## One digit -/

theorem decimalValue?_digitChar (below : d < 10) : decimalValue? (digitChar d) = some d := by
  have all : ∀ d < 10, decimalValue? (digitChar d) = some d := by decide
  exact all d below

theorem isDecimal_digitChar (below : d < 10) : isDecimal (digitChar d) = true := by
  rw [isDecimal, decimalValue?_digitChar below]
  rfl

/-! ## Writing -/

theorem digitsOnto_eq_append (n : Nat) (rest : List Char) :
    digitsOnto n rest = digits n ++ rest := by
  induction n using Nat.strongRecOn generalizing rest with
  | ind n ih =>
      by_cases below : n < 10
      · have onto : ∀ rest, digitsOnto n rest = digitChar n :: rest := by
          intro rest
          rw [digitsOnto, if_pos below]
        rw [digits, onto, onto []]
        rfl
      · have shorter : n / 10 < n := Nat.div_lt_self (by omega) (by decide)
        have onto : ∀ rest, digitsOnto n rest = digits (n / 10) ++ digitChar (n % 10) :: rest := by
          intro rest
          rw [digitsOnto, if_neg below, ih _ shorter]
        rw [digits, onto, onto []]
        simp

theorem digits_of_lt (below : n < 10) : digits n = [digitChar n] := by
  rw [digits, digitsOnto, if_pos below]

theorem digits_of_le (large : 10 ≤ n) : digits n = digits (n / 10) ++ [digitChar (n % 10)] := by
  rw [digits, digitsOnto, if_neg (Nat.not_lt.mpr large), digitsOnto_eq_append]

/-- What holds of one digit, and of digits with one more behind them, holds of all that is
written. -/
theorem digits_induction {P : Nat → List Char → Prop}
    (one : ∀ n < 10, P n [digitChar n])
    (more : ∀ n, 10 ≤ n → P (n / 10) (digits (n / 10)) →
      P n (digits (n / 10) ++ [digitChar (n % 10)]))
    (n : Nat) : P n (digits n) := by
  induction n using Nat.strongRecOn with
  | ind n ih =>
      by_cases below : n < 10
      · rw [digits_of_lt below]
        exact one n below
      · have large : 10 ≤ n := Nat.not_lt.mp below
        rw [digits_of_le large]
        exact more n large (ih _ (Nat.div_lt_self (by omega) (by decide)))

theorem isDecimal_of_mem_digits (written : c ∈ digits n) : isDecimal c = true := by
  induction n using digits_induction with
  | one n below =>
      rw [List.mem_singleton.mp written]
      exact isDecimal_digitChar below
  | more n large ih =>
      rcases List.mem_append.mp written with front | last
      · exact ih front
      · rw [List.mem_singleton.mp last]
        exact isDecimal_digitChar (Nat.mod_lt _ (by decide))

theorem digits_ne_nil (n : Nat) : digits n ≠ [] := by
  induction n using digits_induction with
  | one n below => simp
  | more n large ih => simp

/-- A number below a power of ten has no more digits than the exponent says. -/
theorem length_digits_le (positive : 0 < k) (below : n < Nat.pow 10 k) :
    (digits n).length ≤ k := by
  induction k generalizing n with
  | zero => exact absurd positive (Nat.lt_irrefl 0)
  | succ k ih =>
      by_cases small : n < 10
      · simp [digits_of_lt small]
      · rw [digits_of_le (Nat.not_lt.mp small), List.length_append, List.length_singleton]
        have fewer : n / 10 < Nat.pow 10 k := by
          change n < Nat.pow 10 k * 10 at below
          omega
        have several : 0 < k := by
          apply Nat.pos_of_ne_zero
          intro zero
          rw [zero] at fewer
          change n / 10 < 1 at fewer
          omega
        exact Nat.succ_le_succ (ih several fewer)

/-- Numbers with no more digits than the limit allows. -/
def Fits (n : Nat) : Prop :=
  n < Nat.pow 10 digitLimit

theorem fits_of_lt (small : n < Nat.pow 10 k) (within : k ≤ digitLimit) : Fits n := by
  -- The limit is kept from being evaluated.
  rw [Fits]
  generalize digitLimit = limit at within ⊢
  exact Nat.lt_of_lt_of_le small (Nat.pow_le_pow_right (by decide) within)

/-- A number within the limit is written with a sign only if it has one. -/
theorem signedText?_natCast (fits : Fits n) : signedText? (n : Int) = some (text n) := by
  rw [Fits] at fits
  rw [signedText?, Int.natAbs_natCast, if_pos fits]
  rfl

/-! ## Reading -/

theorem ofDigits_concat (cs : List Char) (c : Char) :
    ofDigits (cs ++ [c]) = ofDigits cs * 10 + (decimalValue? c).getD 0 := by
  simp [ofDigits]

@[simp] theorem ofDigits_digits (n : Nat) : ofDigits (digits n) = n := by
  induction n using digits_induction with
  | one n below => simp [ofDigits, decimalValue?_digitChar below]
  | more n large ih =>
      rw [ofDigits_concat, ih, decimalValue?_digitChar (Nat.mod_lt _ (by decide)),
        Option.getD_some]
      omega

theorem trim_isPadding (digits : ∀ c ∈ cs, isDigit c = true) : Text.trim isPadding cs = cs := by
  apply Text.trim_of_none
  intro c member
  simp [isPadding, Text.isBlank_of_isDigit (digits c member)]

/-- A text is read just if decimal digits within the limit are left of it without its padding. -/
theorem read_eq_ok_iff : read cs = .ok n ↔
    Text.trim isPadding cs ≠ [] ∧ (∀ c ∈ Text.trim isPadding cs, isDecimal c = true) ∧
      (Text.trim isPadding cs).length ≤ digitLimit ∧ n = ofDigits (Text.trim isPadding cs) := by
  rw [read]
  generalize Text.trim isPadding cs = body
  constructor
  · intro returned
    split at returned
    next long => cases returned
    next short =>
      split at returned
      next malformed => cases returned
      next solid =>
        simp only [Bool.or_eq_true, List.isEmpty_iff, decide_eq_true_eq, not_or] at solid
        have front : body.takeWhile isDecimal <+: body := List.takeWhile_prefix isDecimal
        have whole : body.takeWhile isDecimal = body :=
          front.eq_of_length (Nat.le_antisymm front.length_le (Nat.not_lt.mp solid.2))
        rw [whole] at solid short returned
        exact ⟨solid.1, List.takeWhile_eq_self_iff.mp whole, Nat.not_lt.mp short,
          (Except.ok.inj returned).symm⟩
  · rintro ⟨filled, decimal, fits, rfl⟩
    have whole : body.takeWhile isDecimal = body := List.takeWhile_eq_self_iff.mpr decimal
    simp [whole, Nat.not_lt.mpr fits, filled]

/-- A run of decimal digits within the limit is the number that it writes. -/
theorem read_of_isDecimal (filled : cs ≠ []) (decimal : ∀ c ∈ cs, isDecimal c = true)
    (fits : cs.length ≤ digitLimit) : read cs = .ok (ofDigits cs) := by
  rw [read_eq_ok_iff, trim_isPadding fun c member => Text.isDigit_of_isDecimal (decimal c member)]
  exact ⟨filled, decimal, fits, rfl⟩

/-- A run of digits within the limit is refused if one of them is not a decimal digit. -/
theorem read_of_isDigit (digits : ∀ c ∈ cs, isDigit c = true)
    (mixed : ¬ ∀ c ∈ cs, isDecimal c = true) (fits : cs.length ≤ digitLimit) :
    read cs = .error (.malformed (String.ofList cs)) := by
  have front : cs.takeWhile isDecimal <+: cs := List.takeWhile_prefix isDecimal
  have shorter : (cs.takeWhile isDecimal).length < cs.length := by
    apply Nat.lt_of_le_of_ne front.length_le
    intro same
    exact mixed (List.takeWhile_eq_self_iff.mp (front.eq_of_length same))
  have within : ¬ digitLimit < (cs.takeWhile isDecimal).length := by omega
  simp [read, trim_isPadding digits, within, shorter]

/-- A number within the limit is read back. -/
theorem read_digits (fits : Fits n) : read (digits n) = .ok n := by
  rw [read_of_isDecimal (digits_ne_nil n) (fun c written => isDecimal_of_mem_digits written)
    (length_digits_le (by decide) fits), ofDigits_digits]

end Number

end MediaNaming
