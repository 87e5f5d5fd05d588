import MediaNaming.Volume.Change
/-!
# The file system as planning and renaming see it

A `Disk` is what those two ask of a file system. The usual one works on the volume;
`Disk.withFaults` makes one that gives other answers for files of certain names.
-/

namespace MediaNaming

/-- The operations of a file system. -/
structure Disk where
  isFile : Volume → Path → Except Failure Bool
  isThere : Volume → Path → Except Failure Bool
  sameFile : Volume → Path → Path → Except Failure Bool
  rename : Volume → Path → Path → Except Failure Volume
  absolute : Path → Path

namespace Disk

/-- The file system of a volume, seen from a working directory. -/
def direct (cwd : Path) : Disk where
  isFile v p := .ok (v.isFile cwd p)
  isThere v p := v.exists? cwd p
  sameFile v p q := v.sameFile? cwd p q
  rename v p q := v.rename? cwd p q
  absolute p := Path.absolute cwd p

/-- An answer that stands in for a question to the volume. -/
inductive Reply where
  | answer (b : Bool)
  | failure (f : Failure)

/-- Replies by the last name of the path that is asked about. -/
structure Faults where
  isFile : List (String × Reply)
  isThere : List (String × Reply)
  sameFile : List (String × Reply)
  rename : List (String × Reply)

/-- The outcome of a question that has a reply. -/
def Reply.outcome {α : Type} (yes : Bool → α) : Reply → Except Failure α
  | answer b => .ok (yes b)
  | failure f => .error f

/-- Asks the replies first. -/
def orReply {α : Type} (replies : List (String × Reply)) (p : Path) (yes : Bool → α)
    (otherwise : Except Failure α) : Except Failure α :=
  match replies.lookup p.name with
  | some r => r.outcome yes
  | none => otherwise

/-- A disk that gives the replies in place of its own answers. A reply to a renaming leaves the
volume as it is. -/
def withFaults (d : Disk) (f : Faults) : Disk where
  isFile v p := orReply f.isFile p id (d.isFile v p)
  isThere v p := orReply f.isThere p id (d.isThere v p)
  sameFile v p q := orReply f.sameFile q id (d.sameFile v p q)
  rename v p q := orReply f.rename p (fun _ => v) (d.rename v p q)
  absolute := d.absolute

end Disk

end MediaNaming
