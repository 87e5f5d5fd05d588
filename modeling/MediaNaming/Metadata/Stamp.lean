import MediaNaming.Calendar
import MediaNaming.Number.Decimal
/-!
# Time stamps of images

Images carry stamps such as `2003:09:03 12:52:43`, and offsets from universal time such as
`+02:00`. `Stamp.read?` reads a stamp, `Stamp.text` writes it with dashes in the date, and
`Stamp.format` does both, leaving alone what is no stamp of an existing date and time.
-/

namespace MediaNaming

/-- A date and a time of day, to the second. -/
structure Stamp where
  date : Date
  clock : Clock
  deriving DecidableEq, Repr

namespace Stamp

/-- A class of characters in a pattern. -/
inductive CharClass where
  | only (c : Char)
  /-- The ASCII characters from one to another. -/
  | between (first last : Char)
  /-- A decimal digit of any script. -/
  | decimal
  deriving Repr

/-- Whether a character belongs to a class. -/
def CharClass.matches : CharClass → Char → Bool
  | only d, c => c = d
  | between first last, c => first ≤ c && c ≤ last
  | decimal, c => Text.isDecimal c

/-- One way to write a number, character by character. -/
abbrev Alternative := List CharClass

/-- Takes the characters that an alternative matches. -/
def Alternative.take? : Alternative → List Char → Option (List Char × List Char)
  | [], cs => some ([], cs)
  | _ :: _, [] => none
  | k :: ks, c :: cs =>
    if k.matches c then (take? ks cs).map fun r => (c :: r.1, r.2) else none

/-- The number in matched characters; blanks in front are not counted. -/
def valueOf (cs : List Char) : Nat :=
  Number.ofDigits (cs.filter Text.isDecimal)

/-- Every way to read a number by one of the alternatives, in their order. -/
def readings (alternatives : List Alternative) (cs : List Char) : List (Nat × List Char) :=
  alternatives.filterMap fun a => (a.take? cs).map fun r => (valueOf r.1, r.2)

/-- Four digits. -/
def yearForms : List Alternative :=
  [[.decimal, .decimal, .decimal, .decimal]]

/-- One or two digits up to 12. -/
def monthForms : List Alternative :=
  [[.only '1', .between '0' '2'], [.only '0', .between '1' '9'], [.between '1' '9']]

/-- One or two digits up to 31; a blank may stand for the first. -/
def dayForms : List Alternative :=
  [[.only '3', .between '0' '1'], [.between '1' '2', .decimal], [.only '0', .between '1' '9'],
    [.between '1' '9'], [.only ' ', .between '1' '9']]

/-- One or two digits up to 23. -/
def hourForms : List Alternative :=
  [[.only '2', .between '0' '3'], [.between '0' '1', .decimal], [.decimal]]

/-- One or two digits up to 59. -/
def minuteForms : List Alternative :=
  [[.between '0' '5', .decimal], [.decimal]]

/-- One or two digits up to 61. -/
def secondForms : List Alternative :=
  [[.only '6', .between '0' '1'], [.between '0' '5', .decimal], [.decimal]]

/-- The text behind a separator. -/
def afterChar (separator : Char) : List Char → List (List Char)
  | c :: cs => if c = separator then [cs] else []
  | [] => []

/-- The texts behind one or more blanks, the longest run of blanks first. -/
def afterBlanks : List Char → List (List Char)
  | [] => []
  | c :: cs => if Text.isBlank c then afterBlanks cs ++ [cs] else []

/-- Every way to read a time of day at the start of a text, the preferred one first. -/
def clockReadings (cs : List Char) : List (Clock × List Char) :=
  (readings hourForms cs).flatMap fun (hour, cs) =>
    (afterChar ':' cs).flatMap fun cs =>
      (readings minuteForms cs).flatMap fun (minute, cs) =>
        (afterChar ':' cs).flatMap fun cs =>
          (readings secondForms cs).map fun (second, cs) => (⟨hour, minute, second, 0⟩, cs)

/-- Every way to read a date at the start of a text, the preferred one first. -/
def dateReadings (cs : List Char) : List (Date × List Char) :=
  (readings yearForms cs).flatMap fun (year, cs) =>
    (afterChar ':' cs).flatMap fun cs =>
      (readings monthForms cs).flatMap fun (month, cs) =>
        (afterChar ':' cs).flatMap fun cs =>
          (readings dayForms cs).map fun (day, cs) => (⟨year, month, day⟩, cs)

/-- Every way to read a stamp at the start of a text, the preferred one first. -/
def allReadings (cs : List Char) : List (Stamp × List Char) :=
  (dateReadings cs).flatMap fun (date, cs) =>
    (afterBlanks cs).flatMap fun cs =>
      (clockReadings cs).map fun (clock, cs) => (⟨date, clock⟩, cs)

/-- Reads a stamp. The preferred reading has to leave nothing over, and its date and time have
to exist. -/
def read? (cs : List Char) : Option Stamp :=
  match allReadings cs with
  | (stamp, []) :: _ =>
    if stamp.date.isValid && stamp.clock.isValid then some stamp else none
  | _ => none

/-- Writes a stamp. Years before 1000 have fewer than four digits. -/
def text (s : Stamp) : String :=
  Number.text s.date.year ++ "-" ++ Number.padded 2 s.date.month ++ "-" ++
    Number.padded 2 s.date.day ++ " " ++ Number.padded 2 s.clock.hour ++ ":" ++
    Number.padded 2 s.clock.minute ++ ":" ++ Number.padded 2 s.clock.second

/-- The sign and the four digits of an offset; a colon may stand between hours and minutes. -/
def offset? (cs : List Char) : Option (List Char) :=
  match cs with
  | sign :: a :: b :: rest =>
    let minutes := match rest with
      | ':' :: more => more
      | _ => rest
    match minutes with
    | [c, d] =>
      if (sign = '+' || sign = '-') && [a, b, c, d].all Text.isDecimal then
        some [sign, a, b, c, d]
      else none
    | _ => none
  | _ => none

/-- The offset behind a written stamp. -/
def offsetText (offset : Option String) : String :=
  match offset.bind fun s => offset? (Text.trim Text.isBlank s.toList) with
  | some cs => " " ++ String.ofList cs
  | none => ""

/-- Writes the stamp of an image, with its offset if that is one. A text that is no stamp stays
as it is, and an empty one gives nothing. -/
def format (raw offset : Option String) : Option String :=
  match raw with
  | none => none
  | some s =>
    let cs := Text.trim (· = Char.ofNat 0) (Text.trim Text.isBlank s.toList)
    match read? cs with
    | some stamp => some (stamp.text ++ offsetText offset)
    | none => if cs.isEmpty then none else some (String.ofList cs)

end Stamp

end MediaNaming
