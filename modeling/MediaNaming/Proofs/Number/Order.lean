import MediaNaming.Proofs.Number.Decimal
/-!
# Written numbers in order

Texts of one length are compared from the front, as numbers are. So numbers that are written with
the same number of digits stand in the order of their texts, whether all digits are their own or
zeros fill up the front.
-/

namespace MediaNaming

/-- Behind fronts of one length, the rests decide only if the fronts are the same. -/
theorem Text.append_lt_append_iff {front other rest more : List Char}
    (same : front.length = other.length) :
    front ++ rest < other ++ more ↔ front < other ∨ front = other ∧ rest < more := by
  induction front generalizing other with
  | nil =>
      rw [List.length_nil, eq_comm, List.length_eq_zero_iff] at same
      simp [same]
  | cons c front ih =>
      cases other with
      | nil => simp at same
      | cons d other =>
          rw [List.length_cons, List.length_cons, Nat.add_right_cancel_iff] at same
          simp only [List.cons_append, List.cons_lt_cons_iff, ih same, List.cons.injEq]
          tauto

namespace Number

open Text (decimalValue? isDecimal)

variable {c : Char} {cs ds : List Char} {d e k m n : Nat}

/-! ## Digits -/

/-- The ten digits that numbers are written with. -/
def IsWritten (c : Char) : Prop :=
  ∃ d < 10, c = digitChar d

theorem digitChar_lt_iff (first : d < 10) (second : e < 10) :
    digitChar d < digitChar e ↔ d < e := by
  have all : ∀ d < 10, ∀ e < 10, digitChar d < digitChar e ↔ d < e := by decide
  exact all d first e second

theorem isWritten_of_mem_digits (written : c ∈ digits n) : IsWritten c := by
  induction n using digits_induction with
  | one n below => exact ⟨n, below, List.mem_singleton.mp written⟩
  | more n large ih =>
      rcases List.mem_append.mp written with front | last
      · exact ih front
      · exact ⟨n % 10, Nat.mod_lt _ (by decide), List.mem_singleton.mp last⟩

theorem lt_pow_length_digits (n : Nat) : n < Nat.pow 10 (digits n).length := by
  induction n using digits_induction with
  | one n below => exact below
  | more n large ih =>
      have more : Nat.pow 10 ((digits (n / 10)).length + 1) =
        Nat.pow 10 (digits (n / 10)).length * 10 := rfl
      rw [List.length_append, List.length_singleton, more]
      omega

/-- The number of digits goes by powers of ten. -/
theorem length_digits (low : Nat.pow 10 k ≤ n) (below : n < Nat.pow 10 (k + 1)) :
    (digits n).length = k + 1 := by
  apply Nat.le_antisymm
  · exact length_digits_le (Nat.succ_pos k) below
  · by_contra short
    have few : (digits n).length ≤ k := Nat.le_of_lt_succ (Nat.lt_of_not_le short)
    have small := Nat.lt_of_lt_of_le (lt_pow_length_digits n) (Nat.pow_le_pow_right (by decide) few)
    exact absurd low (Nat.not_le.mpr small)

/-- One more digit behind digits of one length is a matter of these and of the last digit. -/
theorem concat_induction {P : List Char → List Char → Prop} (nil : P [] [])
    (concat : ∀ cs ds d e, d < 10 → e < 10 → (∀ c ∈ cs, IsWritten c) → (∀ c ∈ ds, IsWritten c) →
      cs.length = ds.length → P cs ds → P (cs ++ [digitChar d]) (ds ++ [digitChar e]))
    (first : ∀ c ∈ cs, IsWritten c) (second : ∀ c ∈ ds, IsWritten c)
    (same : cs.length = ds.length) : P cs ds := by
  induction cs using List.reverseRecOn generalizing ds with
  | nil =>
      rw [List.length_nil, eq_comm, List.length_eq_zero_iff] at same
      rw [same]
      exact nil
  | append_singleton cs c ih =>
      rcases List.eq_nil_or_concat ds with rfl | ⟨ds, e, rfl⟩
      · simp at same
      · rw [List.concat_eq_append] at second same ⊢
        simp only [List.length_append, List.length_singleton, Nat.add_right_cancel_iff] at same
        rw [List.forall_mem_append] at first second
        obtain ⟨d, small, rfl⟩ := first.2 c List.mem_cons_self
        obtain ⟨e, small', rfl⟩ := second.2 e List.mem_cons_self
        exact concat cs ds d e small small' first.1 second.1 same (ih first.1 second.1 same)

theorem ofDigits_concat_digitChar (cs : List Char) (below : d < 10) :
    ofDigits (cs ++ [digitChar d]) = ofDigits cs * 10 + d := by
  rw [ofDigits_concat, decimalValue?_digitChar below, Option.getD_some]

theorem eq_of_ofDigits_eq (first : ∀ c ∈ cs, IsWritten c) (second : ∀ c ∈ ds, IsWritten c)
    (same : cs.length = ds.length) : ofDigits cs = ofDigits ds → cs = ds := by
  apply concat_induction _ _ first second same
  · exact fun _ => rfl
  · intro cs ds d e small small' _ _ _ ih
    rw [ofDigits_concat_digitChar cs small, ofDigits_concat_digitChar ds small']
    intro equal
    have front : ofDigits cs = ofDigits ds := by omega
    have last : d = e := by omega
    rw [ih front, last]

/-- Digits of one length are in the order of the numbers that they write. -/
theorem lt_iff_ofDigits_lt (first : ∀ c ∈ cs, IsWritten c) (second : ∀ c ∈ ds, IsWritten c)
    (same : cs.length = ds.length) : cs < ds ↔ ofDigits cs < ofDigits ds := by
  apply concat_induction _ _ first second same
  · simp
  · intro cs ds d e small small' first second same ih
    have front : cs = ds ↔ ofDigits cs = ofDigits ds :=
      ⟨congrArg ofDigits, eq_of_ofDigits_eq first second same⟩
    have last : [digitChar d] < [digitChar e] ↔ d < e := by
      rw [List.cons_lt_cons_iff, digitChar_lt_iff small small']
      simp
    rw [Text.append_lt_append_iff same, ih, front, last, ofDigits_concat_digitChar cs small,
      ofDigits_concat_digitChar ds small']
    omega

/-! ## Zeros in front -/

theorem ofDigits_replicate_append (count : Nat) (cs : List Char) :
    ofDigits (List.replicate count '0' ++ cs) = ofDigits cs := by
  have zero : decimalValue? '0' = some 0 := rfl
  induction count with
  | zero => rfl
  | succ count ih =>
      rw [List.replicate_succ, List.cons_append, ← ih]
      simp [ofDigits, zero]

theorem toList_padded (width n : Nat) :
    (padded width n).toList = List.replicate (width - (digits n).length) '0' ++ digits n := by
  rw [padded, String.toList_ofList]

@[simp] theorem ofDigits_padded (width n : Nat) : ofDigits (padded width n).toList = n := by
  rw [toList_padded, ofDigits_replicate_append, ofDigits_digits]

theorem isWritten_of_mem_padded {width : Nat} (written : c ∈ (padded width n).toList) :
    IsWritten c := by
  rw [toList_padded, List.mem_append] at written
  rcases written with zero | digit
  · exact ⟨0, by decide, List.eq_of_mem_replicate zero⟩
  · exact isWritten_of_mem_digits digit

theorem length_padded (positive : 0 < k) (below : n < Nat.pow 10 k) :
    (padded k n).toList.length = k := by
  have fits := length_digits_le positive below
  rw [toList_padded, List.length_append, List.length_replicate]
  omega

theorem isDecimal_of_isWritten (written : IsWritten c) : isDecimal c = true := by
  obtain ⟨d, below, rfl⟩ := written
  exact isDecimal_digitChar below

end Number

end MediaNaming
