import MediaNaming.Text.Utf8
import MediaNaming.Volume.Basic
/-!
# Following paths

How the operating system finds the location that a path names. Symbolic links inside a path are
always followed, the last one only on request; `..` leads to the directory above the one
reached, wherever a link has led. A slash behind a name asks for a directory. `Volume.find`
gives the location of an entry, `Volume.reach` also that of one that could be made.
-/

namespace MediaNaming.Volume

/-- The longest name, in octets. -/
def nameLimit : Nat := 255

/-- The length, in octets, from which a path is refused. -/
def pathLimit : Nat := 4096

/-- The number of links that one path may lead through. -/
def linkLimit : Nat := 40

/-- The length of a text in octets. -/
def octetLength (s : String) : Nat :=
  (Text.Utf8.octets s).length

/-- The names of a link's target. A slash at its end gives an empty name behind them. -/
def targetNames (target : String) : List String :=
  (Text.pieces '/' target).filter (· ≠ "") ++
    (if target.toList.getLast? = some '/' then [""] else [])

/-- Where the names of a link's target start. -/
def targetStart (here : Location) (target : String) : Location :=
  if target.toList.head? = some '/' then [] else here

/-- What becomes of the last name of a path. -/
inductive LastName where
  /-- A link stays as it is. -/
  | kept
  /-- A link is followed. -/
  | followed
  /-- A link is followed to a file, which is made if it is missing. A slash behind its name is
  refused before the name is looked up. -/
  | made
  deriving DecidableEq, Repr

/-- Follows names from a location. The last name may be one that does not exist. -/
def walk (v : Volume) (last : LastName) (links : Nat) (here : Location) (names : List String) :
    Except SystemCode Location :=
  match names with
  | [] => .ok here
  | name :: rest =>
    if v.entry? here = none then .error .missing
    else if v.entry? here ≠ some .directory then .error .noDirectory
    else if name = "" || name = "." then walk v last links here rest
    else if name = ".." then walk v last links here.tail rest
    else if last = .made && rest = [""] then .error .isDirectory
    else if nameLimit < octetLength name then .error .nameTooLong
    else
      match v.entry? (name :: here) with
      | none => if rest.isEmpty then .ok (name :: here) else .error .missing
      | some (.link target) =>
        if rest.isEmpty && last = .kept then .ok (name :: here)
        else
          match links with
          | 0 => .error .linkLoop
          | k + 1 => walk v last k (targetStart here target) (targetNames target ++ rest)
      | some _ => walk v last links (name :: here) rest
termination_by (links, names.length)

/-- Why a path leads nowhere. -/
inductive Refusal where
  | nullInPath
  | code (c : SystemCode)
  deriving DecidableEq, Repr

/-- The failure of an operation on one path. -/
def Refusal.failure (r : Refusal) (p : Path) : Failure :=
  match r with
  | nullInPath => .nullInPath
  | code c => .system c p.text none

/-- The location where a path starts. -/
def start (cwd p : Path) : Location :=
  if p.anchor = .relative then cwd.parts.reverse else []

/-- The location that a path names, whose last name may be one that does not exist. -/
def reach (v : Volume) (last : LastName) (cwd p : Path) : Except Refusal Location :=
  if Path.hasNull p.text then .error .nullInPath
  else if pathLimit ≤ octetLength p.text then .error (.code .nameTooLong)
  else (v.walk last linkLimit (start cwd p) p.parts).mapError .code

/-- The location of the entry that a path names. -/
def find (v : Volume) (last : LastName) (cwd p : Path) : Except Refusal Location :=
  match v.reach last cwd p with
  | .error r => .error r
  | .ok l => if (v.entry? l).isSome then .ok l else .error (.code .missing)

end MediaNaming.Volume
