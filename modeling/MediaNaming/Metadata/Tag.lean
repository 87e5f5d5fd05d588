import MediaNaming.Text.Split
import MediaNaming.Value.Wording
/-!
# Reading tags

A tag may hold its text bare, in a sequence, in octets or wrapped in a frame; `firstText` finds
the first text in any of these, and `plainText` writes a value out as it is. Numbers in tags are
written as `number/total`, or stand in pairs, and a year is the first four characters of a date.
-/

namespace MediaNaming.Tag

/-- Drops the ends of a tag's text: white space first, and null characters then. Nothing may be
left. -/
def finish (cs : List Char) : Option String :=
  let rest := Text.trim (· = Char.ofNat 0) (Text.trim Text.isBlank cs)
  if rest.isEmpty then none else some (String.ofList rest)

mutual

/-- The first text of a tag: a sequence gives its first item. -/
def firstText : Value → Except Failure (Option String)
  | .list [] => .ok none
  | .list (v :: _) => itemText v
  | .tuple [] => .ok none
  | .tuple (v :: _) => itemText v
  | v => itemText v

/-- The text of one item: what carries text or wraps a value is opened, and all else is written
out. -/
def itemText : Value → Except Failure (Option String)
  | .null => .ok none
  | .frame v => firstText v
  | .literal v => firstText v
  | .wrapper v => firstText v
  | .octets bs => .ok (finish (Text.Utf8.decode bs))
  | v => v.wording.map fun s => finish s.toList

end

/-- The whole text of a value where there is room for this many calls inside the one that writes
it: nothing for null, and the characters of octets. -/
def plainText (room : Nat) : Value → Except Failure String
  | .null => .ok ""
  | .octets bs => .ok (Text.Utf8.text bs)
  | v => v.wordingWithin room

/-- The number that a piece of text writes between white space; nothing if it is not a run of
digits. -/
def number? (cs : List Char) : Except Failure (Option Nat) :=
  if Text.isDigitText (Text.trim Text.isBlank cs) then
    match Number.read cs with
    | .ok n => .ok (some n)
    | .error flaw => .error (.number flaw)
  else .ok none

/-- Reads `number/total`. Each of the two may be missing. -/
def slashNumbers (s : String) : Except Failure (Option Nat × Option Nat) :=
  match Text.splitOn '/' s.toList with
  | [] => .ok (none, none)
  | [first] => do return (← number? first, none)
  | first :: second :: _ => do return (← number? first, ← number? second)

/-- Reads the year at the start of a date. -/
def year (s : String) : Except Failure (Option Nat) :=
  let front := s.toList.take 4
  if front.length = 4 && Text.isDigitText front then
    match Number.read front with
    | .ok n => .ok (some n)
    | .error flaw => .error (.number flaw)
  else .ok none

/-- The item of a sequence, a text or a mapping at a place. -/
def item (v : Value) (index : Nat) : Except Failure Value :=
  let pick (items : List Value) : Except Failure Value :=
    match items[index]? with
    | some w => .ok w
    | none => .error (.outOfRange v.kindName)
  match v with
  | .list items => pick items
  | .tuple items => pick items
  | .text s => pick (s.toList.map fun c => .text (String.singleton c))
  | .octets bs => pick (bs.map fun b => .int b.toNat)
  | .mapping entries =>
    match Entries.get? entries (.int index) with
    | some w => .ok w
    | none => .error (.missingKey (Number.text index))
  | _ => .error (.noItems v.kindName)

/-- A number of a pair; zero stands for none. -/
def pairNumber (pair : Value) (index : Nat) : Except Failure Value := do
  let n ← item pair index
  return if n.isZero then .null else n

/-- The first pair of a sequence of pairs. -/
def firstPair (v : Value) : Except Failure (Value × Value) :=
  if v.isTruthy then do
    let pair ← item v 0
    return (← pairNumber pair 0, ← pairNumber pair 1)
  else .ok (.null, .null)

/-- A number of a pair as text; nothing stands for none. -/
def pairText (v : Value) : Except Failure String :=
  if v.isTruthy then v.wording else .ok ""

/-- The first pair in the form `number/total`. -/
def pairAsSlash (v : Value) : Except Failure (Option String) :=
  if v.isTruthy then do
    let (number, total) ← firstPair v
    return some ((← pairText number) ++ "/" ++ (← pairText total))
  else .ok none

end MediaNaming.Tag
