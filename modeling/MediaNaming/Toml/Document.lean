import MediaNaming.Toml.Scalar
/-!
# TOML documents

A document assigns values to keys, inside tables that headers open. A table is opened once,
whether by a header or by a dotted key, and tables and arrays that are written in one piece
cannot be added to; `Marks` keeps track of that. `Toml.read` gives the entries of the outermost
table.
-/

namespace MediaNaming.Toml

/-- What a table must not be used for any more. -/
inductive Mark where
  /-- A value written in one piece: nothing can be added. -/
  | frozen
  /-- A table that has been opened: no header opens it again. -/
  | opened
  deriving DecidableEq, Repr

/-- A mark at a key, which may hold for everything below it. -/
structure Marked where
  key : Key
  mark : Mark
  below : Bool
  deriving DecidableEq, Repr

/-- The marks that have been set. -/
abbrev Marks := List Marked

namespace Marks

/-- Whether a key has a mark, of its own or from above. -/
def holds (marks : Marks) (key : Key) (mark : Mark) : Bool :=
  marks.any fun m => m.mark = mark && (m.key = key || (m.below && m.key.isPrefixOf key))

/-- Takes all marks from a key and what is below it. -/
def clear (marks : Marks) (key : Key) : Marks :=
  marks.filter fun m => !key.isPrefixOf m.key

end Marks

/-- Changes the table that a key leads to; missing tables are made on the way. With `lists`, the
last table of an array stands for the array. -/
def changeAt (lists : Bool) : Key → (Entries → Option Entries) → Entries → Option Entries
  | [], change, table => change table
  | name :: rest, change, table =>
    match table.get? (.text name) with
    | none =>
      (changeAt lists rest change []).map fun sub => table.insert (.text name) (.mapping sub)
    | some (.mapping sub) =>
      (changeAt lists rest change sub).map fun sub => table.insert (.text name) (.mapping sub)
    | some (.list items) =>
      match lists, items.getLast? with
      | true, some (.mapping sub) =>
        (changeAt lists rest change sub).map fun sub =>
          table.insert (.text name) (.list (items.dropLast ++ [.mapping sub]))
      | _, _ => none
    | some _ => none

/-- Gives a key of a table a value, unless it has one. -/
def addEntry (name : String) (v : Value) (table : Entries) : Option Entries :=
  match table.get? (.text name) with
  | some _ => none
  | none => some (table ++ [(.text name, v)])

/-- Starts another table in the array of a key. -/
def addTable (name : String) (table : Entries) : Option Entries :=
  match table.get? (.text name) with
  | none => some (table ++ [(.text name, .list [.mapping []])])
  | some (.list items) => some (table.insert (.text name) (.list (items ++ [.mapping []])))
  | some _ => none

/-- A failure where there is nothing. -/
def orMalformed {α : Type} : Option α → Except Flaw α
  | some a => .ok a
  | none => .error .malformed

/-- Whether a value is a table or an array. -/
def isNest : Value → Bool
  | .mapping _ | .list _ => true
  | _ => false

/-- The words for true and false. -/
def word? : List Char → Option (Value × List Char)
  | 't' :: 'r' :: 'u' :: 'e' :: rest => some (.bool true, rest)
  | 'f' :: 'a' :: 'l' :: 's' :: 'e' :: rest => some (.bool false, rest)
  | _ => none

/-- A table written in one piece, as far as it has been read. -/
structure InlineTable where
  entries : Entries
  marks : Marks

/-- Adds an entry to a table written in one piece. -/
def InlineTable.add (t : InlineTable) (key : Key) (v : Value) : Except Flaw InlineTable :=
  if t.marks.holds key .frozen then .error .malformed
  else do
    let entries ← orMalformed
      (changeAt false key.dropLast (addEntry (key.getLast?.getD "") v) t.entries)
    return ⟨entries, if isNest v then ⟨key, .frozen, true⟩ :: t.marks else t.marks⟩

mutual

/-- Reads a value; `fuel` bounds the depth of the reading. -/
def readValue (fuel : Nat) (cs : List Char) : Except Flaw (Value × List Char) :=
  match fuel with
  | 0 => .error .malformed
  | k + 1 =>
    match readString? cs with
    | some r => r.map fun p => (.text (String.ofList p.1), p.2)
    | none =>
      match word? cs with
      | some r => .ok r
      | none =>
        match cs with
        | '[' :: rest => do
          let rest ← skipFiller rest
          match rest with
          | ']' :: more => return (.list [], more)
          | _ =>
            let (items, more) ← readItems k rest
            return (.list items, more)
        | '\x7b' :: rest =>
          match skipGap rest with
          | '\x7d' :: more => .ok (.mapping [], more)
          | rest => do
            let (t, more) ← readEntries k ⟨[], []⟩ rest
            return (.mapping t.entries, more)
        | _ => readScalar cs

/-- Reads the items of an array, of which there is at least one more. -/
def readItems (fuel : Nat) (cs : List Char) : Except Flaw (List Value × List Char) :=
  match fuel with
  | 0 => .error .malformed
  | k + 1 => do
    let (v, rest) ← readValue k cs
    let rest ← skipFiller rest
    match rest with
    | ']' :: more => return ([v], more)
    | ',' :: more =>
      let more ← skipFiller more
      match more with
      | ']' :: more => return ([v], more)
      | _ =>
        let (vs, more) ← readItems k more
        return (v :: vs, more)
    | _ => .error .malformed

/-- Reads the entries of a table written in one piece, of which there is at least one more. -/
def readEntries (fuel : Nat) (t : InlineTable) (cs : List Char) :
    Except Flaw (InlineTable × List Char) :=
  match fuel with
  | 0 => .error .malformed
  | k + 1 => do
    let (key, rest) ← readKey cs
    match rest with
    | '=' :: rest =>
      let (v, rest) ← readValue k (skipGap rest)
      let t ← t.add key v
      match skipGap rest with
      | '\x7d' :: more => return (t, more)
      | ',' :: more => readEntries k t (skipGap more)
      | _ => .error .malformed
    | _ => .error .malformed

end

/-- A document as far as it has been read. -/
structure Document where
  table : Entries
  /-- The table that the last header opened. -/
  header : Key
  marks : Marks
  /-- Tables that dotted keys have opened since the last header. -/
  pending : List Key

namespace Document

/-- The document before its first line. -/
def start : Document := ⟨[], [], [], []⟩

/-- Every table that was opened by dotted keys counts as opened when the next header comes. -/
def settle (d : Document) : Document :=
  { d with
    marks := d.pending.map (fun key => ⟨key, .opened, false⟩) ++ d.marks
    pending := [] }

/-- The keys of the tables that a dotted key goes through. -/
def passed (header : Key) (key : Key) : List Key :=
  (List.range (key.length - 1)).map fun i => header ++ key.take (i + 1)

/-- Assigns a value to a key inside the current table. -/
def assign (d : Document) (key : Key) (v : Value) : Except Flaw Document :=
  let above := d.header ++ key.dropLast
  if (passed d.header key).any fun k => d.marks.holds k .opened then .error .malformed
  else if d.marks.holds above .frozen then .error .malformed
  else do
    let table ← orMalformed
      (changeAt true above (addEntry (key.getLast?.getD "") v) d.table)
    return { d with
      table := table
      marks := if isNest v then ⟨d.header ++ key, .frozen, true⟩ :: d.marks else d.marks
      pending := passed d.header key ++ d.pending }

/-- Opens the table of a header. -/
def openTable (d : Document) (key : Key) : Except Flaw Document :=
  if d.marks.holds key .opened || d.marks.holds key .frozen then .error .malformed
  else do
    let table ← orMalformed (changeAt true key some d.table)
    return { d with table := table, header := key, marks := ⟨key, .opened, false⟩ :: d.marks }

/-- Opens another table of an array. -/
def openItem (d : Document) (key : Key) : Except Flaw Document :=
  if d.marks.holds key .frozen then .error .malformed
  else do
    let table ← orMalformed
      (changeAt true key.dropLast (addTable (key.getLast?.getD "")) d.table)
    return { d with
      table := table
      header := key
      marks := ⟨key, .opened, false⟩ :: d.marks.clear key }

/-- Reads a header behind its first bracket. -/
def readHeader (d : Document) (cs : List Char) : Except Flaw (Document × List Char) :=
  match cs with
  | '[' :: rest => do
    let (key, rest) ← readKey (skipGap rest)
    let d ← d.settle.openItem key
    match rest with
    | ']' :: ']' :: more => return (d, more)
    | _ => .error .malformed
  | _ => do
    let (key, rest) ← readKey (skipGap cs)
    let d ← d.settle.openTable key
    match rest with
    | ']' :: more => return (d, more)
    | _ => .error .malformed

/-- Reads an assignment. -/
def readAssignment (d : Document) (cs : List Char) : Except Flaw (Document × List Char) := do
  let (key, rest) ← readKey cs
  match rest with
  | '=' :: rest =>
    let (v, rest) ← readValue (rest.length + 1) (skipGap rest)
    return (← d.assign key v, rest)
  | _ => .error .malformed

/-- Reads what stands on a line in front of its comment. -/
def readStatement (d : Document) (cs : List Char) : Except Flaw (Document × List Char) :=
  match cs with
  | '#' :: _ => .ok (d, cs)
  | '[' :: rest => d.readHeader rest
  | _ => d.readAssignment cs

/-- Reads line after line; `fuel` bounds their number. -/
def readLines (fuel : Nat) (d : Document) (cs : List Char) : Except Flaw Document :=
  match fuel with
  | 0 => .error .malformed
  | k + 1 =>
    match skipGap cs with
    | [] => .ok d
    | '\n' :: rest => readLines k d rest
    | cs => do
      let (d, rest) ← d.readStatement cs
      match ← skipComment (skipGap rest) with
      | [] => return d
      | '\n' :: rest => readLines k d rest
      | _ => .error .malformed

end Document

/-- Makes a line feed of every carriage return with a line feed behind it. -/
def unixLines : List Char → List Char
  | '\r' :: '\n' :: rest => '\n' :: unixLines rest
  | c :: rest => c :: unixLines rest
  | [] => []

/-- Reads a document. -/
def read (cs : List Char) : Except Flaw Entries :=
  let lines := unixLines cs
  (Document.start.readLines (lines.length + 1) lines).map (·.table)

end MediaNaming.Toml
