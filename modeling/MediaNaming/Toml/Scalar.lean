import MediaNaming.Number.Reading
import MediaNaming.Toml.Lexeme
import MediaNaming.Value.Basic
/-!
# Numbers, dates and times of TOML

A digit of a number may have an underscore in front of it, except the first one. Dates and times
have a fixed number of digits at every place.
-/

namespace MediaNaming.Toml

/-- Further digits of a number. -/
def moreDigits (p : Char → Bool) : List Char → List Char × List Char
  | '_' :: c :: rest =>
    if p c then
      let more := moreDigits p rest
      (c :: more.1, more.2)
    else ([], '_' :: c :: rest)
  | c :: rest =>
    if p c then
      let more := moreDigits p rest
      (c :: more.1, more.2)
    else ([], c :: rest)
  | [] => ([], [])

/-- The digits of a number; nothing if none stands here. -/
def digitRun? (p : Char → Bool) : List Char → Option (List Char × List Char)
  | c :: rest =>
    if p c then
      let more := moreDigits p rest
      some (c :: more.1, more.2)
    else none
  | [] => none

/-- The number that digits of a base below 17 write. -/
def ofBase (base : Nat) (cs : List Char) : Nat :=
  cs.foldl (fun n c => n * base + (hexValue? c).getD 0) 0

/-- Reads the digits of a number with a base of its own. -/
def basedNumber? : List Char → Option (Nat × List Char)
  | '0' :: 'x' :: rest =>
    (digitRun? (fun c => (hexValue? c).isSome) rest).map fun r => (ofBase 16 r.1, r.2)
  | '0' :: 'o' :: rest =>
    (digitRun? (fun c => '0' ≤ c && c ≤ '7') rest).map fun r => (ofBase 8 r.1, r.2)
  | '0' :: 'b' :: rest =>
    (digitRun? (fun c => c = '0' || c = '1') rest).map fun r => (ofBase 2 r.1, r.2)
  | _ => none

/-- The digits of a whole number: a zero stands alone. -/
def wholeRun? : List Char → Option (List Char × List Char)
  | '0' :: rest => some (['0'], rest)
  | cs => digitRun? Char.isDigit cs

/-- The fraction behind a whole number, with its point; empty if there is none. -/
def fractionRun (cs : List Char) : List Char × List Char :=
  match cs with
  | '.' :: rest =>
    match digitRun? Char.isDigit rest with
    | some (ds, more) => ('.' :: ds, more)
    | none => ([], cs)
  | _ => ([], cs)

/-- The exponent behind a number, with its letter; empty if there is none. -/
def exponentRun (cs : List Char) : List Char × List Char :=
  match cs with
  | c :: rest =>
    if c = 'e' || c = 'E' then
      let (mark, digits) :=
        match rest with
        | '+' :: more => (['+'], more)
        | '-' :: more => (['-'], more)
        | _ => ([], rest)
      match digitRun? Char.isDigit digits with
      | some (ds, more) => ('e' :: mark ++ ds, more)
      | none => ([], cs)
    else ([], cs)
  | [] => ([], cs)

/-- A decimal number from its parts. -/
def decimalValue (mark whole floating : List Char) : Except Flaw Value :=
  if floating.isEmpty then
    if Number.digitLimit < whole.length then .error (.longNumber whole.length)
    else
      let n : Int := Number.ofDigits whole
      .ok (.int (if mark = ['-'] then -n else n))
  else
    match Number.Binary64.read? (mark ++ whole ++ floating) with
    | some x => .ok (.float x)
    | none => .error .malformed

/-- Reads a decimal number, or one of the words for values that no digits write. -/
def decimalNumber (cs : List Char) : Result Value :=
  let (mark, body) :=
    match cs with
    | '+' :: rest => (['+'], rest)
    | '-' :: rest => (['-'], rest)
    | _ => ([], cs)
  match wholeRun? body with
  | some (whole, rest) =>
    let (fraction, rest) := fractionRun rest
    let (exponent, rest) := exponentRun rest
    (decimalValue mark whole (fraction ++ exponent)).map fun v => (v, rest)
  | none =>
    match body with
    | 'i' :: 'n' :: 'f' :: rest => .ok (.float (.infinity (mark = ['-'])), rest)
    | 'n' :: 'a' :: 'n' :: rest => .ok (.float .nan, rest)
    | _ => .error .malformed

/-- The number that exactly `count` digits write. -/
def fixedDigits? : Nat → List Char → Option (Nat × List Char)
  | count, cs =>
    let ds := cs.take count
    if ds.length = count && ds.all Char.isDigit then some (Number.ofDigits ds, cs.drop count)
    else none

/-- The text behind a separator. -/
def behind? (separator : Char) : List Char → Option (List Char)
  | c :: rest => if c = separator then some rest else none
  | [] => none

/-- The microseconds of a fraction of a second; digits beyond the sixth do not count. -/
def microRun (cs : List Char) : Nat × List Char :=
  match cs with
  | '.' :: rest =>
    let ds := rest.takeWhile Char.isDigit
    if ds.isEmpty then (0, cs)
    else
      let six := ds.take 6
      (Number.ofDigits (six ++ List.replicate (6 - six.length) '0'), rest.dropWhile Char.isDigit)
  | _ => (0, cs)

/-- Reads a time of day. -/
def readClock? (cs : List Char) : Option (Clock × List Char) := do
  let (hour, cs) ← fixedDigits? 2 cs
  let cs ← behind? ':' cs
  let (minute, cs) ← fixedDigits? 2 cs
  let cs ← behind? ':' cs
  let (second, cs) ← fixedDigits? 2 cs
  let clock : Clock := ⟨hour, minute, second, (microRun cs).1⟩
  if clock.isValid then some (clock, (microRun cs).2) else none

/-- Reads an offset from universal time, in minutes. -/
def readOffset (cs : List Char) : Option Int × List Char :=
  let signed (mark : Int) (rest : List Char) : Option Int × List Char :=
    let parts : Option (Nat × Nat × List Char) := do
      let (hours, rest) ← fixedDigits? 2 rest
      let rest ← behind? ':' rest
      let (minutes, rest) ← fixedDigits? 2 rest
      return (hours, minutes, rest)
    match parts with
    | some (hours, minutes, more) =>
      if hours ≤ 23 && minutes ≤ 59 then (some (mark * (hours * 60 + minutes : Nat)), more)
      else (none, cs)
    | none => (none, cs)
  match cs with
  | 'Z' :: rest => (some 0, rest)
  | 'z' :: rest => (some 0, rest)
  | '+' :: rest => signed 1 rest
  | '-' :: rest => signed (-1) rest
  | _ => (none, cs)

/-- Reads year, month and day, whether or not the date exists. -/
def readDate? (cs : List Char) : Option (Date × List Char) := do
  let (year, cs) ← fixedDigits? 4 cs
  let cs ← behind? '-' cs
  let (month, cs) ← fixedDigits? 2 cs
  let cs ← behind? '-' cs
  let (day, cs) ← fixedDigits? 2 cs
  return (⟨year, month, day⟩, cs)

/-- Reads the time of day behind a date, with its offset. -/
def readDayTime? : List Char → Option (Clock × Option Int × List Char)
  | c :: rest =>
    if c = 'T' || c = 't' || c = ' ' then
      (readClock? rest).map fun (clock, rest) => (clock, readOffset rest)
    else none
  | [] => none

/-- Reads a date or a time; nothing if none starts here. -/
def readMoment? (cs : List Char) : Option (Result Value) :=
  match readDate? cs with
  | some (date, rest) =>
    some (
      if date.isValid then
        match readDayTime? rest with
        | some (clock, offset, more) => .ok (.moment (.dateTime date clock offset), more)
        | none => .ok (.moment (.date date), rest)
      else .error .malformed)
  | none => (readClock? cs).map fun (clock, rest) => .ok (.moment (.time clock), rest)

/-- Reads a number, a date or a time. -/
def readScalar (cs : List Char) : Result Value :=
  match readMoment? cs with
  | some r => r
  | none =>
    match basedNumber? cs with
    | some (n, rest) => .ok (.int n, rest)
    | none => decimalNumber cs

end MediaNaming.Toml
