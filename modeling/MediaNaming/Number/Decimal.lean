import MediaNaming.Text.Blank
import MediaNaming.Text.Digit
/-!
# Whole numbers as text

Writing and reading decimal numbers. Both refuse more than `digitLimit` digits. Reading accepts
the decimal digits of every script, with white space around them.
-/

namespace MediaNaming.Number

/-- The greatest number of digits that is read or written. -/
def digitLimit : Nat := 4300

/-- The ASCII digit of a number below ten. -/
def digitChar (n : Nat) : Char :=
  Char.ofNat (48 + n)

/-- The decimal digits of `n` in front of `rest`. -/
def digitsOnto (n : Nat) (rest : List Char) : List Char :=
  if n < 10 then digitChar n :: rest
  else digitsOnto (n / 10) (digitChar (n % 10) :: rest)
termination_by n

/-- The decimal digits of a number, the most significant first. -/
def digits (n : Nat) : List Char :=
  digitsOnto n []

/-- The decimal digits of a number as text. -/
def text (n : Nat) : String :=
  String.ofList (digits n)

/-- The decimal digits, with zeros in front up to `width`. -/
def padded (width n : Nat) : String :=
  String.ofList (List.replicate (width - (digits n).length) '0' ++ digits n)

/-- A number with its sign, however long. -/
def signedDigits (i : Int) : List Char :=
  match i with
  | .ofNat n => digits n
  | .negSucc n => '-' :: digits (n + 1)

/-- A number with its sign, unless it has more digits than the limit allows. -/
def signedText? (i : Int) : Option String :=
  if i.natAbs < Nat.pow 10 digitLimit then some (String.ofList (signedDigits i)) else none

/-- The number that a run of decimal digits writes. -/
def ofDigits (cs : List Char) : Nat :=
  cs.foldl (fun n c => n * 10 + (Text.decimalValue? c).getD 0) 0

/-- Why a text is not read as a number. -/
inductive Flaw where
  /-- The text is not a run of decimal digits. -/
  | malformed (written : String)
  /-- The run has more digits than the limit allows. -/
  | tooLong (digits : Nat)
  deriving DecidableEq, Repr

/-- White space that may stand around a number: all but the information separators. -/
def isPadding (c : Char) : Bool :=
  Text.isBlank c && !Text.isSeparatorControl c

/-- Reads a run of decimal digits. A run over the limit is refused before what follows it is
looked at. -/
def read (cs : List Char) : Except Flaw Nat :=
  let body := Text.trim isPadding cs
  let run := body.takeWhile Text.isDecimal
  if digitLimit < run.length then .error (.tooLong run.length)
  else if run.isEmpty || run.length < body.length then .error (.malformed (String.ofList cs))
  else .ok (ofDigits run)

end MediaNaming.Number
