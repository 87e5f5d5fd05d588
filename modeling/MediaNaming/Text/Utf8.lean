/-!
# UTF-8

The encoding of characters as octets, and two ways to read octets back. `Utf8.head` reads one
character or finds the longest stretch that no further octet could complete; `Utf8.decode` puts
U+FFFD in the place of each such stretch, and `Utf8.decode?` stops at the first one.
-/

namespace MediaNaming.Text.Utf8

/-- The octets of one character. -/
def encodeChar (c : Char) : List UInt8 :=
  let n := c.toNat
  if n < 0x80 then [n.toUInt8]
  else if n < 0x800 then [(0xC0 + n / 0x40).toUInt8, (0x80 + n % 0x40).toUInt8]
  else if n < 0x10000 then
    [(0xE0 + n / 0x1000).toUInt8, (0x80 + n / 0x40 % 0x40).toUInt8, (0x80 + n % 0x40).toUInt8]
  else
    [(0xF0 + n / 0x40000).toUInt8, (0x80 + n / 0x1000 % 0x40).toUInt8,
      (0x80 + n / 0x40 % 0x40).toUInt8, (0x80 + n % 0x40).toUInt8]

/-- The octets of a text. -/
def encode (cs : List Char) : List UInt8 :=
  cs.flatMap encodeChar

/-- Why octets do not form a character. -/
inductive Defect where
  /-- No character starts with this octet. -/
  | start
  /-- The octet that follows continues no character. -/
  | continuation
  /-- The text ends inside a character. -/
  | ended
  deriving DecidableEq, Repr

/-- What stands first: a character, or a defect with the number of octets that belong to it. -/
structure Head where
  item : Except (Defect × Nat) Char
  rest : List UInt8

/-- What the first octet of a longer character announces. -/
structure Lead where
  /-- The octets that follow. -/
  more : Nat
  /-- The least second octet. -/
  low : Nat
  /-- The greatest second octet. -/
  high : Nat
  /-- The bits of the code point in the first octet. -/
  bits : Nat

/-- The second octets are restricted where a shorter form, a surrogate or a number beyond
U+10FFFF would arise. -/
def lead? (b : Nat) : Option Lead :=
  if 0xC2 ≤ b ∧ b ≤ 0xDF then some ⟨1, 0x80, 0xBF, b - 0xC0⟩
  else if b = 0xE0 then some ⟨2, 0xA0, 0xBF, 0⟩
  else if b = 0xED then some ⟨2, 0x80, 0x9F, 0xD⟩
  else if 0xE1 ≤ b ∧ b ≤ 0xEF then some ⟨2, 0x80, 0xBF, b - 0xE0⟩
  else if b = 0xF0 then some ⟨3, 0x90, 0xBF, 0⟩
  else if b = 0xF4 then some ⟨3, 0x80, 0x8F, 4⟩
  else if 0xF1 ≤ b ∧ b ≤ 0xF3 then some ⟨3, 0x80, 0xBF, b - 0xF0⟩
  else none

/-- Reads `more` continuation octets after `taken` octets that gave `bits`. -/
def readTail (more low high bits taken : Nat) (bs : List UInt8) : Head :=
  match more, bs with
  | 0, rest => ⟨.ok (Char.ofNat bits), rest⟩
  | _ + 1, [] => ⟨.error (.ended, taken), []⟩
  | k + 1, b :: rest =>
    if low ≤ b.toNat ∧ b.toNat ≤ high then
      readTail k 0x80 0xBF (bits * 0x40 + (b.toNat - 0x80)) (taken + 1) rest
    else ⟨.error (.continuation, taken), b :: rest⟩

/-- The first character of `b :: bs`. -/
def head (b : UInt8) (bs : List UInt8) : Head :=
  if b.toNat < 0x80 then ⟨.ok (Char.ofNat b.toNat), bs⟩
  else match lead? b.toNat with
    | none => ⟨.error (.start, 1), bs⟩
    | some l => readTail l.more l.low l.high l.bits 1 bs

theorem readTail_rest_length_le (more low high bits taken : Nat) (bs : List UInt8) :
    (readTail more low high bits taken bs).rest.length ≤ bs.length := by
  fun_induction readTail more low high bits taken bs with
  | case1 => simp
  | case2 => simp
  | case3 _ _ _ _ _ _ _ _ ih => simp only [List.length_cons]; omega
  | case4 => simp

theorem head_rest_length_le (b : UInt8) (bs : List UInt8) :
    (head b bs).rest.length ≤ bs.length := by
  unfold head
  split
  · simp
  · split
    · simp
    · exact readTail_rest_length_le ..

/-- The character that stands for octets that form none. -/
def replacement : Char := Char.ofNat 0xFFFD

/-- Reads every octet; each stretch that forms no character becomes one `replacement`. -/
def decode : List UInt8 → List Char
  | [] => []
  | b :: bs => ((head b bs).item.toOption.getD replacement) :: decode (head b bs).rest
termination_by bs => bs.length
decreasing_by
  have := head_rest_length_le b bs
  simp only [List.length_cons]
  omega

/-- A defect with the place where it starts and its first octet. -/
structure Flaw where
  defect : Defect
  position : Nat
  size : Nat
  octet : UInt8
  deriving DecidableEq, Repr

/-- Reads octets that start at `position`, up to the first defect. -/
def decodeFrom? (position : Nat) : List UInt8 → Except Flaw (List Char)
  | [] => .ok []
  | b :: bs =>
    match (head b bs).item with
    | .error (defect, size) => .error ⟨defect, position, size, b⟩
    | .ok c =>
      (decodeFrom? (position + (bs.length + 1 - (head b bs).rest.length)) (head b bs).rest).map
        (c :: ·)
termination_by bs => bs.length
decreasing_by
  have := head_rest_length_le b bs
  simp only [List.length_cons]
  omega

/-- Reads octets, up to the first defect. -/
def decode? (bs : List UInt8) : Except Flaw (List Char) :=
  decodeFrom? 0 bs

/-- The octets of a string. -/
def octets (s : String) : List UInt8 :=
  encode s.toList

/-- The text of octets, with U+FFFD for what cannot be read. -/
def text (bs : List UInt8) : String :=
  String.ofList (decode bs)

end MediaNaming.Text.Utf8
