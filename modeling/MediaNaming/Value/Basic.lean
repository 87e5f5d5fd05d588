import MediaNaming.Calendar
import MediaNaming.Failure
import MediaNaming.Number.Binary64
import MediaNaming.Path
/-!
# Values

Tags of media files, entries of a configuration and arguments of callers may be of any kind, and
what happens depends on the kind. `Value` holds one of them.
-/

namespace MediaNaming

/-- A date, a time of day or both. -/
inductive Moment where
  | date (d : Date)
  | time (c : Clock)
  /-- The offset is in minutes. -/
  | dateTime (d : Date) (c : Clock) (offset : Option Int)
  deriving DecidableEq, Repr

/-- A value of any kind. -/
inductive Value where
  | null
  | bool (b : Bool)
  | int (i : Int)
  | float (x : Number.Binary64)
  | text (s : String)
  | octets (bs : List UInt8)
  | list (items : List Value)
  | tuple (items : List Value)
  | mapping (entries : List (Value × Value))
  | path (p : Path)
  /-- A sequence that can be read once. Reading it may end with a failure behind the items. -/
  | stream (items : List Value) (stop : Option Failure)
  /-- A scheme's literal text, whose text may be of a wrong kind. -/
  | literal (text : Value)
  /-- A scheme's metadata key, whose name may be of a wrong kind. -/
  | key (name : Value)
  /-- A tag that carries its values as text. -/
  | frame (text : Value)
  /-- A tag that wraps one value. -/
  | wrapper (value : Value)
  | moment (m : Moment)
  deriving Inhabited

namespace Value

/-- The word for the kind of a value in messages. -/
def kindName : Value → String
  | null => "NoneType"
  | bool _ => "bool"
  | int _ => "int"
  | float _ => "float"
  | text _ => "str"
  | octets _ => "bytes"
  | list _ => "list"
  | tuple _ => "tuple"
  | mapping _ => "dict"
  | path _ => "PosixPath"
  | stream _ _ => "generator"
  | literal _ => "Literal"
  | key _ => "MetadataKey"
  | frame _ => "Frame"
  | wrapper _ => "Attribute"
  | moment (.date _) => "date"
  | moment (.time _) => "time"
  | moment (.dateTime ..) => "datetime"

/-- The word for the kind of a value in messages that tell where the kind belongs. -/
def fullKindName : Value → String
  | moment m => "datetime." ++ (moment m).kindName
  | v => v.kindName

/-- The number of items of a sequence, a text or a mapping. -/
def size? : Value → Option Nat
  | text s => some s.length
  | octets bs => some bs.length
  | list items => some items.length
  | tuple items => some items.length
  | mapping entries => some entries.length
  | _ => none

/-- Whether a value counts as something: not null, false, zero or empty. -/
def isTruthy : Value → Bool
  | null => false
  | bool b => b
  | int i => i ≠ 0
  | float x => !x.isZero
  | text s => s ≠ ""
  | octets bs => !bs.isEmpty
  | list items => !items.isEmpty
  | tuple items => !items.isEmpty
  | mapping entries => !entries.isEmpty
  | _ => true

/-- The number that a value is, if it is one; true and false are one and zero. -/
def number? : Value → Option (Int ⊕ Number.Binary64)
  | bool b => some (.inl (if b then 1 else 0))
  | int i => some (.inl i)
  | float x => some (.inr x)
  | _ => none

/-- Whether two numbers are equal. -/
def sameNumber : Int ⊕ Number.Binary64 → Int ⊕ Number.Binary64 → Bool
  | .inl i, .inl j => i = j
  | .inl i, .inr y => y.equalsInt i
  | .inr x, .inl j => x.equalsInt j
  | .inr x, .inr y => x.equals y

mutual

/-- Whether two values are the same key of a mapping. Numbers of all kinds are compared by size;
a text and a path are never the same. -/
def sameKey : Value → Value → Bool
  | null, null => true
  | text s, text t => s = t
  | octets a, octets b => a = b
  | tuple a, tuple b => sameKeys a b
  | path p, path q => p = q
  | literal a, literal b => sameKey a b
  | key a, key b => sameKey a b
  | moment a, moment b => a = b
  | a, b =>
    match number? a, number? b with
    | some x, some y => sameNumber x y
    | _, _ => false

/-- Whether two sequences of values agree place by place. -/
def sameKeys : List Value → List Value → Bool
  | [], [] => true
  | a :: as, b :: bs => sameKey a b && sameKeys as bs
  | _, _ => false

end

/-- Whether a number is zero; other values are not. -/
def isZero (v : Value) : Bool :=
  match number? v with
  | some n => sameNumber n (.inl 0)
  | none => false

/-- Whether a value is the empty text. -/
def isEmptyText : Value → Bool
  | text s => s = ""
  | _ => false

end Value

/-- Entries in the order of their first insertion. -/
abbrev Entries := List (Value × Value)

namespace Entries

/-- The value of a key. -/
def get? (entries : Entries) (key : Value) : Option Value :=
  (entries.find? fun e => e.1.sameKey key).map (·.2)

/-- Gives a key a value. A key that is there keeps its place. -/
def insert (entries : Entries) (key value : Value) : Entries :=
  if entries.any fun e => e.1.sameKey key then
    entries.map fun e => if e.1.sameKey key then (e.1, value) else e
  else entries ++ [(key, value)]

/-- Inserts pairs one after another. -/
def ofPairs (pairs : List (Value × Value)) : Entries :=
  pairs.foldl (fun entries e => insert entries e.1 e.2) []

end Entries

end MediaNaming
