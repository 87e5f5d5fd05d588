/-!
# Floating-point numbers

Binary numbers of 64 bits, held as their bits and worked with in whole-number arithmetic: a
finite one is a significand times a power of two. `Binary64.ofRatio` rounds a ratio to the
nearest, with ties to the even significand.
-/

namespace MediaNaming.Number

/-- A floating-point number by its bits: sign, eleven bits of exponent, fifty-two bits of
fraction. -/
structure Binary64 where
  bits : UInt64
  deriving DecidableEq, Repr

namespace Binary64

/-- Whether the sign bit is set. -/
def negative (x : Binary64) : Bool :=
  Nat.pow 2 63 ≤ x.bits.toNat

/-- The exponent bits. -/
def exponentBits (x : Binary64) : Nat :=
  x.bits.toNat / Nat.pow 2 52 % Nat.pow 2 11

/-- The fraction bits. -/
def fraction (x : Binary64) : Nat :=
  x.bits.toNat % Nat.pow 2 52

/-- Whether the bits stand for no number. -/
def isNaN (x : Binary64) : Bool :=
  x.exponentBits = 2047 && x.fraction ≠ 0

/-- Whether the bits stand for an infinity. -/
def isInfinite (x : Binary64) : Bool :=
  x.exponentBits = 2047 && x.fraction = 0

/-- Whether the number is zero of either sign. -/
def isZero (x : Binary64) : Bool :=
  x.bits.toNat % Nat.pow 2 63 = 0

/-- The significand of a finite number. -/
def significand (x : Binary64) : Nat :=
  if x.exponentBits = 0 then x.fraction else x.fraction + Nat.pow 2 52

/-- The power of two that the significand is multiplied by. -/
def exponent (x : Binary64) : Int :=
  (if x.exponentBits = 0 then 1 else (x.exponentBits : Int)) - 1075

/-- Puts sign, exponent bits and fraction together. -/
def pack (negative : Bool) (exponentBits fraction : Nat) : Binary64 :=
  ⟨((if negative then Nat.pow 2 63 else 0) + exponentBits * Nat.pow 2 52 + fraction).toUInt64⟩

/-- An infinity. -/
def infinity (negative : Bool) : Binary64 :=
  pack negative 2047 0

/-- The number that is none. -/
def nan : Binary64 :=
  pack false 2047 (Nat.pow 2 51)

/-- A ratio rounded to the nearest whole number; a half goes to the even neighbour. -/
def roundRatio (num den : Nat) : Nat :=
  let q := num / den
  let twice := 2 * (num % den)
  if twice < den || (twice = den && q % 2 = 0) then q else q + 1

/-- The nearest number to `num / den`, for a positive denominator. -/
def ofRatio (negative : Bool) (num den : Nat) : Binary64 :=
  if num = 0 then pack negative 0 0 else
  let guess : Int := (num.log2 : Int) - den.log2 - 52
  -- The quotient has 53 or 54 bits at `guess - 1`, and 52 or 53 at `guess`.
  let scaled (q : Int) : Nat × Nat := (num * Nat.pow 2 (-q).toNat, den * Nat.pow 2 q.toNat)
  let fits (q : Int) : Bool := Nat.pow 2 52 ≤ (scaled q).1 / (scaled q).2
  let exact := if fits guess then guess else guess - 1
  let q := if exact < -1074 then -1074 else exact
  let m := roundRatio (scaled q).1 (scaled q).2
  let (m, q) := if m = Nat.pow 2 53 then (Nat.pow 2 52, q + 1) else (m, q)
  if m < Nat.pow 2 52 then pack negative 0 m
  else if 971 < q then infinity negative
  else pack negative (q + 1075).toNat (m - Nat.pow 2 52)

/-- The nearest number to `digits * 10 ^ exponent`. Beyond the range of the exponent no long
power is computed. -/
def ofDecimal (negative : Bool) (digits : Nat) (length : Nat) (exponent : Int) : Binary64 :=
  if digits = 0 then pack negative 0 0
  else if 400 < exponent + length then infinity negative
  else if exponent + length < -400 then pack negative 0 0
  else ofRatio negative (digits * Nat.pow 10 exponent.toNat) (Nat.pow 10 (-exponent).toNat)

/-- Whether a finite number equals a whole one. -/
def equalsInt (x : Binary64) (i : Int) : Bool :=
  if x.isNaN || x.isInfinite then false
  else if x.isZero then i = 0
  else
    (x.negative = decide (i < 0)) &&
      x.significand * Nat.pow 2 x.exponent.toNat = i.natAbs * Nat.pow 2 (-x.exponent).toNat

/-- Equality of numbers: both zeros are equal, and what is no number differs from itself. -/
def equals (x y : Binary64) : Bool :=
  !x.isNaN && (x.bits = y.bits || (x.isZero && y.isZero))

end Binary64

end MediaNaming.Number
