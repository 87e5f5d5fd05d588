import MediaNaming.Number.Binary64
import MediaNaming.Number.Decimal
/-!
# The shortest text of a floating-point number

The fewest decimal digits that read back as the number and, among those, the nearest. Exponents
from -4 to 15 are written positionally, with at least one digit after the point.
-/

namespace MediaNaming.Number

/-- The positive ratio `num / den`. -/
structure Ratio where
  num : Nat
  den : Nat

/-- The ratio `m * 2 ^ q`. -/
def Ratio.scale (m : Nat) (q : Int) : Ratio :=
  ⟨m * Nat.pow 2 q.toNat, Nat.pow 2 (-q).toNat⟩

/-- The exponent of the first decimal digit of a ratio below one, searched downward. -/
def leadBelowOne (r : Ratio) : Nat → Nat → Int
  | 0, j => -(j : Int)
  | fuel + 1, j =>
    if r.den ≤ r.num * Nat.pow 10 j then -(j : Int) else leadBelowOne r fuel (j + 1)

/-- The power of ten of the first decimal digit. -/
def leadExponent (r : Ratio) : Int :=
  if r.den ≤ r.num then ((digits (r.num / r.den)).length : Int) - 1 else leadBelowOne r 400 1

/-- A decimal number `coefficient * 10 ^ exponent`. -/
structure Scientific where
  coefficient : Nat
  exponent : Int

/-- Whether a decimal number rounds to the significand `m` at exponent `q`: it lies between the
halfway points to the neighbours, which belong to an even significand. -/
def Scientific.roundsTo (d : Scientific) (m : Nat) (q : Int) : Bool :=
  let narrow := m = Nat.pow 2 52 && q ≠ -1074
  let above := Ratio.scale (4 * m + 2) (q - 2)
  let below := Ratio.scale (4 * m - (if narrow then 1 else 2)) (q - 2)
  let num := d.coefficient * Nat.pow 10 d.exponent.toNat
  let den := Nat.pow 10 (-d.exponent).toNat
  let closed := m % 2 = 0
  let le (a b : Nat) : Bool := if closed then a ≤ b else a < b
  le (below.num * den) (num * below.den) && le (num * above.den) (above.num * den)

/-- The nearer of the two decimal numbers of the grid `10 ^ k` around the ratio that round back,
if one does. -/
def onGrid? (r : Ratio) (m : Nat) (q k : Int) : Option Scientific :=
  let num := r.num * Nat.pow 10 (-k).toNat
  let den := r.den * Nat.pow 10 k.toNat
  let low : Scientific := ⟨num / den, k⟩
  let high : Scientific := ⟨num / den + 1, k⟩
  match low.roundsTo m q, high.roundsTo m q with
  | true, true =>
    let twice := 2 * (num % den)
    some (if twice < den || (twice = den && low.coefficient % 2 = 0) then low else high)
  | true, false => some low
  | false, true => some high
  | false, false => none

/-- Tries grids of more and more digits. -/
def shortestFrom (r : Ratio) (m : Nat) (q lead : Int) : Nat → Nat → Scientific
  | 0, _ => ⟨m, q⟩
  | fuel + 1, n =>
    match onGrid? r m q (lead - n) with
    | some d => d
    | none => shortestFrom r m q lead fuel (n + 1)

/-- The shortest decimal number that rounds to a positive finite number. -/
def shortest (x : Binary64) : Scientific :=
  let r := Ratio.scale x.significand x.exponent
  shortestFrom r x.significand x.exponent (leadExponent r) 18 0

/-- How a decimal number is laid out. -/
structure Layout where
  /-- The least exponent of the first digit that is written positionally. -/
  least : Int
  /-- The least exponent that is not written positionally any more. -/
  limit : Int
  /-- The least number of digits of a written exponent. -/
  exponentWidth : Nat

/-- Floating-point numbers are positional from 0.0001 up to sixteen digits. -/
def Binary64.layout : Layout := ⟨-4, 16, 2⟩

/-- Drops the zeros at the end. -/
def dropEndZeros (cs : List Char) : List Char :=
  (cs.reverse.dropWhile (· = '0')).reverse

/-- The text of a positive decimal number. -/
def Scientific.render (layout : Layout) (d : Scientific) : List Char :=
  let all := digits d.coefficient
  let lead : Int := d.exponent + all.length - 1
  let ds := dropEndZeros all
  if layout.least ≤ lead && lead < layout.limit then
    if lead < 0 then
      '0' :: '.' :: (List.replicate (-lead - 1).toNat '0' ++ ds)
    else
      let whole := lead.toNat + 1
      let front := ds.take whole ++ List.replicate (whole - ds.length) '0'
      let back := ds.drop whole
      front ++ '.' :: (if back.isEmpty then ['0'] else back)
  else
    let back := ds.drop 1
    ds.take 1 ++ (if back.isEmpty then [] else '.' :: back) ++
      'e' :: (if lead < 0 then '-' else '+') ::
        (padded layout.exponentWidth lead.natAbs).toList

/-- The text of a floating-point number. -/
def Binary64.text (x : Binary64) : String :=
  if x.isNaN then "nan"
  else
    let sign := if x.negative then ['-'] else []
    let body :=
      if x.isInfinite then ['i', 'n', 'f']
      else if x.isZero then ['0', '.', '0']
      else (shortest x).render Binary64.layout
    String.ofList (sign ++ body)

end MediaNaming.Number
