import MediaNaming.Failure
import MediaNaming.Path
/-!
# File trees

A volume is a set of named entries: directories, regular files and symbolic links. Several
entries may name one file, and a file's octets belong to the file, not to the entry. A location
is the list of names that lead to an entry, the innermost first; the root has the empty one and
is always a directory.
-/

namespace MediaNaming

/-- The names from an entry up to the root. -/
abbrev Location := List String

/-- What stands at a location. -/
inductive Entry where
  | directory
  /-- A regular file. Entries with the same number name the same file. -/
  | file (id : Nat)
  /-- A symbolic link with the text of its target. -/
  | link (target : String)
  deriving DecidableEq, Repr

/-- A file tree. -/
structure Volume where
  entries : List (Location × Entry)
  contents : List (Nat × List UInt8)
  deriving DecidableEq, Repr

namespace Volume

/-- The volume with nothing but its root. -/
def empty : Volume := ⟨[], []⟩

/-- The entry at a location. -/
def entry? (v : Volume) (l : Location) : Option Entry :=
  if l = [] then some .directory else v.entries.lookup l

/-- The octets of a file. -/
def content (v : Volume) (id : Nat) : List UInt8 :=
  (v.contents.lookup id).getD []

/-- Whether a location lies below a directory. -/
def isBelow (l dir : Location) : Bool :=
  dir.isSuffixOf l && l ≠ dir

/-- The names of the entries of a directory. -/
def namesIn (v : Volume) (dir : Location) : List String :=
  v.entries.filterMap fun e =>
    match e.1 with
    | name :: above => if above = dir then some name else none
    | [] => none

/-- Puts an entry at a location where none is. -/
def add (v : Volume) (l : Location) (e : Entry) : Volume :=
  { v with entries := v.entries ++ [(l, e)] }

/-- Takes away the entry at a location and what lies below it. -/
def remove (v : Volume) (l : Location) : Volume :=
  { v with entries := v.entries.filter fun e => !l.isSuffixOf e.1 }

/-- Gives a file other octets. -/
def setContent (v : Volume) (id : Nat) (bs : List UInt8) : Volume :=
  { v with contents := (id, bs) :: v.contents.filter (·.1 ≠ id) }

/-- A number that no file has. -/
def freshId (v : Volume) : Nat :=
  v.contents.foldl (fun n c => max n (c.1 + 1)) 0

/-- Puts a new file at a location where no entry is. -/
def addFile (v : Volume) (l : Location) (bs : List UInt8) : Volume :=
  (v.setContent v.freshId bs).add l (.file v.freshId)

/-- Where an entry lies after the entry at `source` has been moved to `target`. -/
def relocate (source target l : Location) : Location :=
  if source.isSuffixOf l then l.take (l.length - source.length) ++ target else l

/-- Moves the entry at `source`, with what lies below it, to `target`; an entry there gives
way. -/
def move (v : Volume) (source target : Location) : Volume :=
  { v with
    entries := (v.entries.filter fun e => e.1 ≠ target).map fun e =>
      (relocate source target e.1, e.2) }

/-- What makes two entries one file or directory. -/
inductive Identity where
  | entry (l : Location)
  | file (id : Nat)
  deriving DecidableEq, Repr

/-- The identity of what stands at a location. -/
def identity (v : Volume) (l : Location) : Identity :=
  match v.entry? l with
  | some (.file id) => .file id
  | _ => .entry l

/-- Whether no entry is a symbolic link. -/
def hasNoLinks (v : Volume) : Bool :=
  v.entries.all fun e =>
    match e.2 with
    | .link _ => false
    | _ => true

/-- The numbers of the files, once for each entry. -/
def fileIds (v : Volume) : List Nat :=
  v.entries.filterMap fun e =>
    match e.2 with
    | .file id => some id
    | _ => none

end Volume

end MediaNaming
