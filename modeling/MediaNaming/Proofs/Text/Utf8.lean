import MediaNaming.Text.Utf8
/-!
# Octets of texts

Decoding finds again what has been encoded. The first octet of a character announces how many
follow and which ones may follow first; the restrictions on the second octet leave out exactly
those numbers that are no characters or have a shorter form.
-/

namespace MediaNaming.Text.Utf8

variable {n low high bits taken k : Nat} {bs : List UInt8}

theorem toNat_octet (small : n < 256) : n.toUInt8.toNat = n := by
  rw [Nat.toUInt8, UInt8.toNat_ofNat']
  exact Nat.mod_eq_of_lt small

/-- Code points are below U+110000 and are no surrogates. -/
theorem toNat_isScalar (c : Char) :
    c.toNat < 0xD800 ∨ (0xDFFF < c.toNat ∧ c.toNat < 0x110000) :=
  c.valid

/-! ## One character -/

/-- An octet within the bounds continues the character. -/
theorem readTail_octet (above : low ≤ n) (below : n ≤ high) (small : n < 256) :
    readTail (k + 1) low high bits taken (n.toUInt8 :: bs) =
      readTail k 0x80 0xBF (bits * 0x40 + (n - 0x80)) (taken + 1) bs := by
  rw [readTail, toNat_octet small, if_pos ⟨above, below⟩]

/-- What the first octet announces is read. -/
theorem head_of_lead (large : 0x80 ≤ n) (small : n < 256)
    (led : lead? n = some ⟨k, low, high, bits⟩) :
    head n.toUInt8 bs = readTail k low high bits 1 bs := by
  rw [head, toNat_octet small, if_neg (Nat.not_lt.mpr large), led]

theorem lead?_two (above : 0x80 ≤ n) (below : n < 0x800) :
    lead? (0xC0 + n / 0x40) = some ⟨1, 0x80, 0xBF, n / 0x40⟩ := by
  have within : 0xC2 ≤ 0xC0 + n / 0x40 ∧ 0xC0 + n / 0x40 ≤ 0xDF := by omega
  rw [lead?, if_pos within, Nat.add_sub_cancel_left]

/-- The second of three octets is within the bounds unless it would make a shorter form or a
surrogate. -/
theorem lead?_three (above : 0x800 ≤ n) (below : n < 0x10000)
    (scalar : n < 0xD800 ∨ 0xDFFF < n) :
    ∃ low high, lead? (0xE0 + n / 0x1000) = some ⟨2, low, high, n / 0x1000⟩ ∧
      low ≤ 0x80 + n / 0x40 % 0x40 ∧ 0x80 + n / 0x40 % 0x40 ≤ high := by
  have notTwo : ¬(0xC2 ≤ 0xE0 + n / 0x1000 ∧ 0xE0 + n / 0x1000 ≤ 0xDF) := by omega
  rw [lead?, if_neg notTwo]
  -- Only the first octets 0xE0 and 0xED restrict the second one.
  by_cases first : n / 0x1000 = 0
  · exact ⟨0xA0, 0xBF, by simp [first], by omega, by omega⟩
  · by_cases surrogate : n / 0x1000 = 0xD
    · exact ⟨0x80, 0x9F, by simp [surrogate], by omega, by omega⟩
    · have within : 0xE1 ≤ 0xE0 + n / 0x1000 ∧ 0xE0 + n / 0x1000 ≤ 0xEF := by omega
      refine ⟨0x80, 0xBF, ?_, by omega, by omega⟩
      rw [if_neg (by omega), if_neg (by omega), if_pos within, Nat.add_sub_cancel_left]

/-- The second of four octets is within the bounds unless it would make a shorter form or a
number that is too large. -/
theorem lead?_four (above : 0x10000 ≤ n) (below : n < 0x110000) :
    ∃ low high, lead? (0xF0 + n / 0x40000) = some ⟨3, low, high, n / 0x40000⟩ ∧
      low ≤ 0x80 + n / 0x1000 % 0x40 ∧ 0x80 + n / 0x1000 % 0x40 ≤ high := by
  have notTwo : ¬(0xC2 ≤ 0xF0 + n / 0x40000 ∧ 0xF0 + n / 0x40000 ≤ 0xDF) := by omega
  have notThree : ¬(0xE1 ≤ 0xF0 + n / 0x40000 ∧ 0xF0 + n / 0x40000 ≤ 0xEF) := by omega
  rw [lead?, if_neg notTwo, if_neg (by omega), if_neg (by omega), if_neg notThree]
  by_cases first : n / 0x40000 = 0
  · exact ⟨0x90, 0xBF, by simp [first], by omega, by omega⟩
  · by_cases last : n / 0x40000 = 4
    · exact ⟨0x80, 0x8F, by simp [last], by omega, by omega⟩
    · have within : 0xF1 ≤ 0xF0 + n / 0x40000 ∧ 0xF0 + n / 0x40000 ≤ 0xF3 := by omega
      refine ⟨0x80, 0xBF, ?_, by omega, by omega⟩
      rw [if_neg (by omega), if_neg (by omega), if_pos within, Nat.add_sub_cancel_left]

/-- The octets of a character are read as this character, whatever follows. -/
theorem head_encodeChar (c : Char) (bs : List UInt8) :
    ∃ b more, encodeChar c ++ bs = b :: more ∧ head b more = ⟨.ok c, bs⟩ := by
  have scalar := toNat_isScalar c
  have collected : ∀ {bits taken}, bits = c.toNat →
      readTail 0 0x80 0xBF bits taken bs = ⟨.ok c, bs⟩ := by
    intro bits taken number
    rw [readTail, number, Char.ofNat_toNat]
  simp only [encodeChar]
  split
  next one =>
    refine ⟨_, _, rfl, ?_⟩
    rw [head, toNat_octet (by omega), if_pos one, Char.ofNat_toNat]
    rfl
  next notOne =>
    split
    next two =>
      refine ⟨_, _, rfl, ?_⟩
      rw [head_of_lead (by omega) (by omega) (lead?_two (by omega) two)]
      apply (readTail_octet (by omega) (by omega) (by omega)).trans
      exact collected (by omega)
    next notTwo =>
      split
      next three =>
        obtain ⟨low, high, led, above, below⟩ := lead?_three (by omega) three (by omega)
        refine ⟨_, _, rfl, ?_⟩
        rw [head_of_lead (by omega) (by omega) led]
        apply (readTail_octet above below (by omega)).trans
        apply (readTail_octet (by omega) (by omega) (by omega)).trans
        exact collected (by omega)
      next notThree =>
        obtain ⟨low, high, led, above, below⟩ := lead?_four (n := c.toNat) (by omega) (by omega)
        refine ⟨_, _, rfl, ?_⟩
        rw [head_of_lead (by omega) (by omega) led]
        apply (readTail_octet above below (by omega)).trans
        apply (readTail_octet (by omega) (by omega) (by omega)).trans
        apply (readTail_octet (by omega) (by omega) (by omega)).trans
        exact collected (by omega)

/-! ## Texts -/

theorem decodeFrom?_encode (cs : List Char) (position : Nat) :
    decodeFrom? position (encode cs) = .ok cs := by
  induction cs generalizing position with
  | nil => rw [encode, List.flatMap_nil, decodeFrom?]
  | cons c cs ih =>
      obtain ⟨b, more, octets, first⟩ := head_encodeChar c (encode cs)
      have split : encode (c :: cs) = b :: more := octets
      rw [split, decodeFrom?, first]
      simp only [ih]
      rfl

/-- What has been encoded is decoded without a defect. -/
theorem decode?_encode (cs : List Char) : decode? (encode cs) = .ok cs :=
  decodeFrom?_encode cs 0

end MediaNaming.Text.Utf8
