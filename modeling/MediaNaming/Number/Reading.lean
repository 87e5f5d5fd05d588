import MediaNaming.Number.Binary64
import MediaNaming.Number.Decimal
/-!
# Reading floating-point numbers

A written number is an optional sign and either one of the words `inf` and `nan` or digits with
an optional fraction and an optional exponent.
-/

namespace MediaNaming.Number

/-- The ASCII digits in front of a text, and the rest. -/
def spanDigits (cs : List Char) : List Char × List Char :=
  (cs.takeWhile Char.isDigit, cs.dropWhile Char.isDigit)

/-- An optional sign; true for a minus. -/
def readSign : List Char → Bool × List Char
  | '-' :: rest => (true, rest)
  | '+' :: rest => (false, rest)
  | cs => (false, cs)

/-- The exponent behind the digits; the whole rest has to belong to it. -/
def readExponent? : List Char → Option Int
  | [] => some 0
  | c :: rest =>
    if c = 'e' || c = 'E' then
      let (negative, rest) := readSign rest
      let (ds, rest) := spanDigits rest
      if ds.isEmpty || !rest.isEmpty then none
      else some (if negative then -(ofDigits ds : Int) else ofDigits ds)
    else none

/-- Reads the text of a floating-point number. -/
def Binary64.read? (cs : List Char) : Option Binary64 :=
  let (negative, rest) := readSign cs
  let word := rest.map Char.toLower
  if word = ['i', 'n', 'f'] then some (infinity negative)
  else if word = ['n', 'a', 'n'] then some nan
  else
    let (whole, rest) := spanDigits rest
    let (part, rest) :=
      match rest with
      | '.' :: more => spanDigits more
      | _ => ([], rest)
    if whole.isEmpty && part.isEmpty then none
    else
      let ds := (whole ++ part).dropWhile (· = '0')
      (readExponent? rest).map fun e =>
        ofDecimal negative (ofDigits ds) ds.length (e - part.length)

end MediaNaming.Number
