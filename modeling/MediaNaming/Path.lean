import MediaNaming.Text.Split
/-!
# Paths

A path is an anchor and the names behind it. Reading a path from text drops empty names and `.`,
and keeps `..`: only the file system knows where that leads. Exactly two slashes in front are an
anchor of their own.
-/

namespace MediaNaming

/-- Where a path starts. -/
inductive Anchor where
  | relative
  | root
  | doubleRoot
  deriving DecidableEq, Repr

/-- The slashes of an anchor. -/
def Anchor.text : Anchor → String
  | .relative => ""
  | .root => "/"
  | .doubleRoot => "//"

/-- A path in its normal form. -/
structure Path where
  anchor : Anchor
  parts : List String
  deriving DecidableEq, Repr

namespace Path

/-- The names of a path text that are kept. -/
def partsOf (s : String) : List String :=
  (Text.pieces '/' s).filter fun part => part ≠ "" && part ≠ "."

/-- Reads a path. -/
def ofText (s : String) : Path :=
  let anchor :=
    match (s.toList.takeWhile (· = '/')).length with
    | 0 => .relative
    | 2 => .doubleRoot
    | _ => .root
  ⟨anchor, partsOf s⟩

/-- The text of a path; the empty relative path is `.`. -/
def text (p : Path) : String :=
  if p.anchor = .relative && p.parts.isEmpty then "."
  else p.anchor.text ++ Text.joined "/" p.parts

/-- The last name, or nothing. -/
def name (p : Path) : String :=
  p.parts.getLast?.getD ""

/-- The path without its last name. -/
def parent (p : Path) : Path :=
  { p with parts := p.parts.dropLast }

/-- The path of an entry of a directory. -/
def child (p : Path) (name : String) : Path :=
  { p with parts := p.parts ++ [name] }

/-- The directory above a path that leads through no links. Above a relative path of nothing but
`..` stands one more of them. -/
def above (p : Path) : Path :=
  if p.anchor = .relative && p.parts.getLast?.getD ".." = ".." then p.child ".." else p.parent

/-- Continues a path with the text of another; an absolute text replaces it. -/
def join (p : Path) (s : String) : Path :=
  let q := ofText s
  if q.anchor = .relative then { p with parts := p.parts ++ q.parts } else q

/-- The part of a name from its last dot, if that dot is neither its first nor its last
character. -/
def suffixOf (cs : List Char) : List Char :=
  let back := cs.reverse
  let ending := back.takeWhile (· ≠ '.')
  match back.dropWhile (· ≠ '.') with
  | _ :: _ :: _ => if ending.isEmpty then [] else '.' :: ending.reverse
  | _ => []

/-- The suffix of the last name. -/
def suffix (p : Path) : String :=
  String.ofList (suffixOf p.name.toList)

/-- Names with every `..` undone by the name before it; above the root there is nothing. -/
def collapse (names : List String) : List String :=
  (names.foldl (fun back name => if name = ".." then back.tail else name :: back) []).reverse

/-- The absolute path without `..`, taken from the text alone: links are not followed. -/
def absolute (cwd p : Path) : Path :=
  if p.anchor = .relative then ⟨cwd.anchor, collapse (cwd.parts ++ p.parts)⟩
  else ⟨p.anchor, collapse p.parts⟩

/-- Whether a text holds a character that no file system accepts. -/
def hasNull (s : String) : Bool :=
  s.toList.contains (Char.ofNat 0)

/-- The home directories of users. -/
structure Homes where
  own : Path
  others : List (String × Path)

/-- Puts a home directory in the place of a leading `~` or `~user`; nothing if the user is
unknown. -/
def expandHome? (homes : Homes) (p : Path) : Option Path :=
  match p.anchor, p.parts with
  | .relative, first :: rest =>
    match first.toList with
    | '~' :: user =>
      let home :=
        if user.isEmpty then some homes.own else homes.others.lookup (String.ofList user)
      home.map fun h => { h with parts := h.parts ++ rest }
    | _ => some p
  | _, _ => some p

end Path

end MediaNaming
