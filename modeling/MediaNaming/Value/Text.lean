import MediaNaming.Number.Shortest
import MediaNaming.Text.Quoted
import MediaNaming.Value.Basic
/-!
# Values as text

`Value.written?` is the text of a value as it enters a name or a message, `Value.shown?` the
form that tells kinds apart: text in quotes, and the items of a container in this form too.
Neither exists for a value with a whole number over the limit of digits.
-/

namespace MediaNaming

namespace Moment

/-- The numbers of a time of day in a call; seconds and microseconds are left out from the end
when zero. -/
def clockArguments (c : Clock) : List Nat :=
  if c.micro ≠ 0 then [c.hour, c.minute, c.second, c.micro]
  else if c.second ≠ 0 then [c.hour, c.minute, c.second]
  else [c.hour, c.minute]

/-- Numbers with a comma between neighbours. -/
def arguments (ns : List Nat) : String :=
  Text.joined ", " (ns.map Number.text)

/-- An offset from universal time. -/
def shownOffset (minutes : Int) : String :=
  if minutes = 0 then "datetime.timezone.utc"
  else
    let seconds := minutes * 60
    let days := if seconds < 0 then "days=-1, " else ""
    let rest := if seconds < 0 then seconds + 86400 else seconds
    "datetime.timezone(datetime.timedelta(" ++ days ++ "seconds=" ++ Number.text rest.toNat ++ "))"

/-- The form that tells kinds apart. -/
def shown : Moment → String
  | date d => "datetime.date(" ++ arguments [d.year, d.month, d.day] ++ ")"
  | time c => "datetime.time(" ++ arguments (clockArguments c) ++ ")"
  | dateTime d c offset =>
    let zone := match offset with
      | none => ""
      | some minutes => ", tzinfo=" ++ shownOffset minutes
    "datetime.datetime(" ++ arguments ([d.year, d.month, d.day] ++ clockArguments c) ++ zone ++ ")"

/-- A date as year, month and day. -/
def dateText (d : Date) : String :=
  Number.padded 4 d.year ++ "-" ++ Number.padded 2 d.month ++ "-" ++ Number.padded 2 d.day

/-- A time of day; microseconds only when there are some. -/
def clockText (c : Clock) : String :=
  Number.padded 2 c.hour ++ ":" ++ Number.padded 2 c.minute ++ ":" ++ Number.padded 2 c.second ++
    (if c.micro = 0 then "" else "." ++ Number.padded 6 c.micro)

/-- An offset as hours and minutes. -/
def offsetText (minutes : Int) : String :=
  (if minutes < 0 then "-" else "+") ++ Number.padded 2 (minutes.natAbs / 60) ++ ":" ++
    Number.padded 2 (minutes.natAbs % 60)

/-- The plain text. -/
def text : Moment → String
  | date d => dateText d
  | time c => clockText c
  | dateTime d c offset =>
    dateText d ++ " " ++ clockText c ++ (offset.map offsetText).getD ""

end Moment

namespace Value

/-- The items of a container between its brackets. -/
def bracketed (opening closing : String) (items : List String) : String :=
  opening ++ Text.joined ", " items ++ closing

mutual

/-- The form that tells kinds apart. -/
def shown? : Value → Option String
  | null => some "None"
  | bool b => some (if b then "True" else "False")
  | int i => Number.signedText? i
  | float x => some x.text
  | text s => some (Text.quoted s)
  | octets bs => some (Text.quotedOctets bs)
  | list items => (shownItems? items).map (bracketed "[" "]")
  | tuple items => (shownItems? items).map fun ss =>
      match ss with
      | [s] => "(" ++ s ++ ",)"
      | _ => bracketed "(" ")" ss
  | mapping entries => (shownEntries? entries).map (bracketed "\x7b" "\x7d")
  | path p => some ("PosixPath(" ++ Text.quoted p.text ++ ")")
  | stream _ _ => some "<generator>"
  | literal v => (shown? v).map fun s => "Literal(text=" ++ s ++ ")"
  | key v => (shown? v).map fun s => "MetadataKey(name=" ++ s ++ ")"
  | frame v => (shown? v).map fun s => "Frame(text=" ++ s ++ ")"
  | wrapper v => (shown? v).map fun s => "Attribute(value=" ++ s ++ ")"
  | moment m => some m.shown

/-- The shown forms of items, if all exist. -/
def shownItems? : List Value → Option (List String)
  | [] => some []
  | v :: vs => do return (← shown? v) :: (← shownItems? vs)

/-- The shown forms of the entries of a mapping, if all exist. -/
def shownEntries? : List (Value × Value) → Option (List String)
  | [] => some []
  | (k, v) :: rest => do return ((← shown? k) ++ ": " ++ (← shown? v)) :: (← shownEntries? rest)

end

/-- The plain text of a value. -/
def written? : Value → Option String
  | text s => some s
  | path p => some p.text
  | moment m => some m.text
  | v => v.shown?

end Value

end MediaNaming
