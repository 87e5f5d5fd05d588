import MediaNaming.Proofs.Text.Utf8
import Mathlib.Data.List.Basic
/-!
# The octets of a character

The octets behind a first one are bound by what it announces, and all that are allowed make up a
character with it: just the octets that the encoding gives. So the beginnings of characters are the
allowed octets, and where a reader stops no longer beginning is there.
-/

namespace MediaNaming.Text.Utf8

variable {n low high bits taken more : Nat} {c : Char} {b : UInt8}
  {bs rest part tail : List UInt8}

/-- The octets are those of the character in the standard encoding. -/
theorem encodeChar_eq (c : Char) : encodeChar c = String.utf8EncodeChar c := by
  have scalar := toNat_isScalar c
  have number : c.val.toNat = c.toNat := rfl
  simp only [encodeChar, String.utf8EncodeChar, number, Nat.toUInt8]
  generalize c.toNat = n at scalar
  by_cases one : n < 0x80
  · have bound : n ≤ 127 := by omega
    rw [if_pos one, if_pos bound]
  have notOne : ¬n ≤ 127 := by omega
  rw [if_neg one, if_neg notOne]
  by_cases two : n < 0x800
  · have bound : n ≤ 2047 := by omega
    have first : 0xC0 + n / 0x40 = n / 64 % 32 + 192 := by omega
    rw [if_pos two, if_pos bound, first, Nat.add_comm 0x80]
  have notTwo : ¬n ≤ 2047 := by omega
  rw [if_neg two, if_neg notTwo]
  by_cases three : n < 0x10000
  · have bound : n ≤ 65535 := by omega
    have first : 0xE0 + n / 0x1000 = n / 4096 % 16 + 224 := by omega
    rw [if_pos three, if_pos bound, first, Nat.add_comm 0x80, Nat.add_comm 0x80]
  · have notThree : ¬n ≤ 65535 := by omega
    have first : 0xF0 + n / 0x40000 = n / 262144 % 8 + 240 := by omega
    rw [if_neg three, if_neg notThree, first, Nat.add_comm 0x80, Nat.add_comm 0x80,
      Nat.add_comm 0x80]

/-- The octets of a string are those that it consists of. -/
theorem octets_eq (s : String) : octets s = s.toByteArray.data.toList := by
  have bytes := String.toByteArray_ofList (l := s.toList)
  rw [String.ofList_toList] at bytes
  rw [bytes, octets, encode, List.utf8Encode, funext encodeChar_eq]
  simp

/-! ## The octets behind the first one -/

/-- Octets that may go on with a character: at most so many, the first one within bounds. -/
def Allowed (more low high : Nat) (tail : List UInt8) : Prop :=
  match tail, more with
  | [], _ => True
  | _ :: _, 0 => False
  | b :: bs, more + 1 => (low ≤ b.toNat ∧ b.toNat ≤ high) ∧ Allowed more 0x80 0xBF bs
termination_by structural tail

/-- The number that octets behind a first one add up to. -/
def value (bits : Nat) (tail : List UInt8) : Nat :=
  tail.foldl (fun n b => n * 0x40 + (b.toNat - 0x80)) bits

theorem value_cons (bits : Nat) (b : UInt8) (tail : List UInt8) :
    value bits (b :: tail) = value (bits * 0x40 + (b.toNat - 0x80)) tail := by
  rw [value, List.foldl_cons, value]

theorem Allowed.length_le (allowed : Allowed more low high tail) : tail.length ≤ more := by
  fun_induction Allowed more low high tail with
  | case1 => exact Nat.zero_le _
  | case2 => exact allowed.elim
  | case3 low high b bs more ih => exact Nat.succ_le_succ (ih allowed.2)

theorem Allowed.of_append (allowed : Allowed more low high (tail ++ rest)) :
    Allowed more low high tail := by
  fun_induction Allowed more low high tail with
  | case1 => trivial
  | case2 => exact allowed.elim
  | case3 low high b bs more ih => exact ⟨allowed.1, ih allowed.2⟩

/-- Where an octet may not go on, no more octets than those before it may go on. -/
theorem Allowed.prefix_of_stops
    (stops : ∀ x others, rest = x :: others → ¬Allowed more low high (tail ++ [x]))
    (front : part <+: tail ++ rest) (allowed : Allowed more low high part) : part <+: tail := by
  by_cases short : part.length ≤ tail.length
  · exact List.prefix_of_prefix_length_le front (List.prefix_append tail rest) short
  · obtain ⟨longer, rfl⟩ := List.prefix_of_prefix_length_le (List.prefix_append tail rest) front
      (Nat.le_of_not_le short)
    cases longer with
    | nil => exact ⟨[], by rw [List.append_nil, List.append_nil]⟩
    | cons x others =>
        obtain ⟨after, split⟩ := (List.prefix_append_right_inj tail).mp front
        rw [List.append_cons] at allowed
        exact absurd allowed.of_append (stops x (others ++ after) split.symm)

/-- Octets that may go on with a character can be completed. -/
theorem Allowed.completed (allowed : Allowed more low high tail) (bounds : low ≤ high)
    (small : high < 256) :
    ∃ rest, Allowed more low high (tail ++ rest) ∧ (tail ++ rest).length = more := by
  induction more generalizing low high tail with
  | zero =>
      have none : tail.length = 0 := Nat.le_zero.mp allowed.length_le
      exact ⟨[], by rwa [List.append_nil], by rwa [List.append_nil]⟩
  | succ more ih =>
      cases tail with
      | nil =>
          obtain ⟨rest, done, full⟩ := @ih 0x80 0xBF [] trivial (by decide) (by decide)
          have least : low.toUInt8.toNat = low := toNat_octet (by omega)
          have above := Nat.le_of_eq least.symm
          have below := Nat.le_trans (Nat.le_of_eq least) bounds
          exact ⟨low.toUInt8 :: rest, ⟨⟨above, below⟩, done⟩, congrArg Nat.succ full⟩
      | cons b bs =>
          obtain ⟨rest, done, full⟩ := ih allowed.2 (by decide) (by decide)
          exact ⟨rest, ⟨allowed.1, done⟩, congrArg Nat.succ full⟩

/-- Reading what follows a first octet either completes the character, or stops at the end or at an
octet that may not go on. -/
theorem readTail_cases (more low high bits taken : Nat) (bs : List UInt8) :
    (∃ tail rest, bs = tail ++ rest ∧ Allowed more low high tail ∧ tail.length = more ∧
      readTail more low high bits taken bs = ⟨.ok (Char.ofNat (value bits tail)), rest⟩) ∨
    ∃ tail rest defect, bs = tail ++ rest ∧ Allowed more low high tail ∧ tail.length < more ∧
      (∀ b others, rest = b :: others → ¬Allowed more low high (tail ++ [b])) ∧
      readTail more low high bits taken bs = ⟨.error (defect, taken + tail.length), rest⟩ := by
  fun_induction readTail more low high bits taken bs with
  | case1 low high bits taken rest => exact .inl ⟨[], rest, rfl, trivial, rfl, rfl⟩
  | case2 low high bits taken more =>
      exact .inr ⟨[], [], .ended, rfl, trivial, Nat.succ_pos _, by simp, rfl⟩
  | case3 low high bits taken more b rest within ih =>
      rcases ih with ⟨tail, others, rfl, allowed, full, read⟩ |
        ⟨tail, others, defect, rfl, allowed, short, stops, read⟩
      · refine .inl ⟨b :: tail, others, rfl, ⟨within, allowed⟩, congrArg Nat.succ full, ?_⟩
        rw [value_cons]
        exact read
      · refine .inr ⟨b :: tail, others, defect, rfl, ⟨within, allowed⟩, Nat.succ_lt_succ short,
          fun x xs same further => stops x xs same further.2, ?_⟩
        rw [read, List.length_cons, Nat.add_right_comm, Nat.add_assoc]
  | case4 low high bits taken more b rest outside =>
      refine .inr ⟨[], b :: rest, .continuation, rfl, trivial, Nat.succ_pos _, ?_, rfl⟩
      rintro x xs same further
      rw [(List.cons.inj same).1] at outside
      exact outside further.1

/-! ## The octets of one character -/

/-- What a first octet announces, by the number of octets that follow. Below its least second
octet there would be a shorter form, and above its greatest one no character. -/
theorem lead?_cases {l : Lead} (led : lead? n = some l) :
    l.low ≤ l.high ∧ 0x80 ≤ l.low ∧ l.high ≤ 0xBF ∧ 0xC2 ≤ n ∧
      (l.more = 1 ∧ n = 0xC0 + l.bits ∧ l.bits < 0x20 ∨
        l.more = 2 ∧ n = 0xE0 + l.bits ∧ l.bits < 0x10 ∧ (l.bits = 0 → l.low = 0xA0) ∧
          (l.bits = 0xD → l.high = 0x9F) ∨
        l.more = 3 ∧ n = 0xF0 + l.bits ∧ l.bits < 5 ∧ (l.bits = 0 → l.low = 0x90) ∧
          (l.bits = 4 → l.high = 0x8F)) := by
  unfold lead? at led
  split at led
  next => cases led; simp; omega
  split at led
  next => cases led; simp; omega
  split at led
  next => cases led; simp; omega
  split at led
  next => cases led; simp; omega
  split at led
  next => cases led; simp; omega
  split at led
  next => cases led; simp; omega
  split at led
  next => cases led; simp; omega
  next => cases led

/-- A character is one octet, or a first octet with all octets that it announces. -/
theorem encodeChar_cases (c : Char) :
    (∃ b, encodeChar c = [b] ∧ b.toNat < 0x80) ∨
      ∃ b l tail, encodeChar c = b :: tail ∧ lead? b.toNat = some l ∧
        Allowed l.more l.low l.high tail ∧ tail.length = l.more := by
  obtain ⟨b, bs, octets, read⟩ := head_encodeChar c []
  rw [List.append_nil] at octets
  rw [head] at read
  split at read
  next one =>
    have alone : bs = [] := congrArg Head.rest read
    exact .inl ⟨b, by rw [octets, alone], one⟩
  split at read
  next => cases congrArg Head.item read
  next l led =>
    rcases readTail_cases l.more l.low l.high l.bits 1 bs with
      ⟨tail, rest, rfl, allowed, full, done⟩ | ⟨tail, rest, defect, -, -, -, -, stopped⟩
    · have last : rest = [] := congrArg Head.rest (done.symm.trans read)
      rw [last, List.append_nil] at octets
      exact .inr ⟨b, l, tail, octets, led, allowed, full⟩
    · cases congrArg Head.item (stopped.symm.trans read)

theorem toNat_ofNat (valid : n < 0xD800 ∨ (0xDFFF < n ∧ n < 0x110000)) :
    (Char.ofNat n).toNat = n := by
  have isValid : n.isValidChar := valid
  rw [Char.ofNat, dif_pos isValid]
  rfl

theorem toUInt8_eq (same : n = b.toNat) : n.toUInt8 = b := by
  rw [same, Nat.toUInt8, UInt8.ofNat_toNat]

theorem encodeChar_one (small : b.toNat < 0x80) : encodeChar (Char.ofNat b.toNat) = [b] := by
  rw [encodeChar, toNat_ofNat (.inl (by omega))]
  simp [small]

/-- All octets that a first octet announces make up a character with it. -/
theorem encodeChar_value {l : Lead} (led : lead? b.toNat = some l)
    (allowed : Allowed l.more l.low l.high tail) (full : tail.length = l.more) :
    encodeChar (Char.ofNat (value l.bits tail)) = b :: tail := by
  -- The bounds of the second octet keep the number within the range of its form.
  obtain ⟨-, low, high, leading, ⟨more, first, bits⟩ | ⟨more, first, bits, least, greatest⟩ |
    ⟨more, first, bits, least, greatest⟩⟩ := lead?_cases led
  · obtain ⟨x, rfl⟩ := List.length_eq_one_iff.mp (full.trans more)
    rw [more] at allowed
    obtain ⟨⟨above, below⟩, -⟩ := allowed
    have number : value l.bits [x] = l.bits * 0x40 + (x.toNat - 0x80) := rfl
    simp only [encodeChar]
    rw [number, toNat_ofNat (by omega), if_neg (by omega), if_pos (by omega),
      toUInt8_eq (b := b) (by omega), toUInt8_eq (b := x) (by omega)]
  · obtain ⟨x, y, rfl⟩ := List.length_eq_two.mp (full.trans more)
    rw [more] at allowed
    obtain ⟨⟨above, below⟩, ⟨above', below'⟩, -⟩ := allowed
    have number : value l.bits [x, y] =
      (l.bits * 0x40 + (x.toNat - 0x80)) * 0x40 + (y.toNat - 0x80) := rfl
    simp only [encodeChar]
    rw [number, toNat_ofNat (by omega), if_neg (by omega), if_neg (by omega), if_pos (by omega),
      toUInt8_eq (b := b) (by omega), toUInt8_eq (b := x) (by omega),
      toUInt8_eq (b := y) (by omega)]
  · obtain ⟨x, y, z, rfl⟩ := List.length_eq_three.mp (full.trans more)
    rw [more] at allowed
    obtain ⟨⟨above, below⟩, ⟨above', below'⟩, ⟨above'', below''⟩, -⟩ := allowed
    have number : value l.bits [x, y, z] =
      ((l.bits * 0x40 + (x.toNat - 0x80)) * 0x40 + (y.toNat - 0x80)) * 0x40 +
        (z.toNat - 0x80) := rfl
    simp only [encodeChar]
    rw [number, toNat_ofNat (by omega), if_neg (by omega), if_neg (by omega), if_neg (by omega),
      toUInt8_eq (b := b) (by omega), toUInt8_eq (b := x) (by omega),
      toUInt8_eq (b := y) (by omega), toUInt8_eq (b := z) (by omega)]

theorem encodeChar_ne_nil (c : Char) : encodeChar c ≠ [] := by
  rcases encodeChar_cases c with ⟨b, octets, -⟩ | ⟨b, l, tail, octets, -⟩ <;> simp [octets]

/-- What the first octet announces bounds the octets that a character has in front. -/
theorem Allowed.of_prefix {l : Lead} (led : lead? b.toNat = some l)
    (front : b :: tail <+: encodeChar c) : Allowed l.more l.low l.high tail := by
  obtain ⟨rest, split⟩ := front
  rcases encodeChar_cases c with ⟨x, octets, small⟩ | ⟨x, l', tail', octets, led', allowed, -⟩
  · obtain ⟨rfl, -⟩ := List.cons.inj (split.trans octets)
    have large := (lead?_cases led).2.2.2.1
    omega
  · obtain ⟨rfl, rfl⟩ := List.cons.inj (split.trans octets)
    cases led'.symm.trans led
    exact allowed.of_append

/-- An octet that goes on with a character. -/
def Trailing (b : UInt8) : Prop :=
  0x80 ≤ b.toNat ∧ b.toNat ≤ 0xBF

theorem Allowed.trailing (allowed : Allowed more low high tail) (least : 0x80 ≤ low)
    (greatest : high ≤ 0xBF) : ∀ x ∈ tail, Trailing x := by
  fun_induction Allowed more low high tail with
  | case1 => simp
  | case2 => exact allowed.elim
  | case3 low high b bs more ih =>
      have first : Trailing b := ⟨Nat.le_trans least allowed.1.1, Nat.le_trans allowed.1.2 greatest⟩
      exact List.forall_mem_cons.mpr ⟨first, ih allowed.2 (Nat.le_refl _) (Nat.le_refl _)⟩

/-- All octets of a character but the first one are trailing octets. -/
theorem encodeChar_trailing (octets : encodeChar c = b :: tail) :
    ¬Trailing b ∧ ∀ x ∈ tail, Trailing x := by
  rcases encodeChar_cases c with ⟨x, only, small⟩ | ⟨x, l, tail', all, led, allowed, -⟩
  · obtain ⟨rfl, rfl⟩ := List.cons.inj (octets.symm.trans only)
    exact ⟨fun trailing => Nat.not_lt.mpr trailing.1 small, by simp⟩
  · obtain ⟨rfl, rfl⟩ := List.cons.inj (octets.symm.trans all)
    obtain ⟨-, least, greatest, leading, -⟩ := lead?_cases led
    refine ⟨fun trailing => ?_, allowed.trailing least greatest⟩
    have small := trailing.2
    omega

end MediaNaming.Text.Utf8
