import MediaNaming.Volume.Change
import MediaNaming.Log.Record
/-!
# Log files

A log file stays open while records are written to it. Before it grows over a limit it gives way
to a new one: it is put away under its name with the number 1 behind it, where the one put away
before has moved on to 2, and so on; what has the last number goes. A refusal on the way loses the
record, and the file is opened again for the next one.
-/

namespace MediaNaming

namespace Volume

/-- The entry that a spot leads to, with every link followed. -/
def lookAt? (v : Volume) (s : Spot) : Option Entry :=
  match v.walk .followed linkLimit s.dir [s.name] with
  | .error _ => none
  | .ok l => v.entry? l

/-- Takes away the entry at a spot. A directory is refused. -/
def removeAt (v : Volume) (s : Spot) : Except SystemCode Volume :=
  match v.entryAt? s with
  | .error c => .error c
  | .ok none => .error .missing
  | .ok (some .directory) => .error .isDirectory
  | .ok (some _) => .ok (v.remove s.location)

/-- Moves an entry to a spot where nothing may stay. -/
def displace (v : Volume) (source target : Spot) : Except SystemCode Volume :=
  if (v.lookAt? target).isNone then v.moveTo source target
  else
    match v.removeAt target with
    | .error c => .error c
    | .ok w => w.moveTo source target

/-- Opens a file at a spot for writing, and makes it if it is missing. -/
def openAt (v : Volume) (s : Spot) : Except SystemCode (Nat × Volume) :=
  match v.walk .made linkLimit s.dir [s.name] with
  | .error c => .error c
  | .ok l =>
    match v.entry? l with
    | none => .ok (v.freshId, v.addFile l [])
    | some (.file id) => .ok (id, v)
    | some _ => .error .isDirectory

/-- Continues a file with a text. -/
def extend (v : Volume) (id : Nat) (text : String) : Volume :=
  v.setContent id (v.content id ++ Text.Utf8.octets text)

end Volume

namespace Log

/-- A file that records are written to. It stays open, so it is known by its number, wherever
its entry is moved. -/
structure LogFile where
  path : Path
  /-- Where the file was when it was opened. Its path is resolved by then, so this is where the
  path leads. -/
  place : Volume.Spot
  /-- The number of the open file; none after a refusal. -/
  id : Option Nat
  level : Level
  deriving DecidableEq, Repr

namespace LogFile

/-- The size in octets that a log file stays under. -/
def sizeLimit : Nat := 10 * 1024 * 1024

/-- How many log files that have been put away are kept. -/
def backupCount : Nat := 5

/-- The place of the log file with a number; the open one has the number 0. -/
def backup (f : LogFile) : Nat → Volume.Spot
  | 0 => f.place
  | n + 1 => ⟨f.place.dir, f.place.name ++ "." ++ Number.text (n + 1)⟩

/-- Gives a log file the next number. What does not exist gets none. -/
def putAway (f : LogFile) (v : Volume) (n : Nat) : Except SystemCode Volume :=
  if (v.lookAt? (f.backup n)).isNone then .ok v
  else if Volume.pathLimit ≤ Volume.octetLength f.path.text + 2 then .error .nameTooLong
  else v.displace (f.backup n) (f.backup (n + 1))

/-- What comes of putting log files away. What was moved before a refusal stays moved. -/
structure Turnover where
  volume : Volume
  isDone : Bool

/-- Gives the log files with a number below this one the next number, the highest first. -/
def turnOver (f : LogFile) (v : Volume) : Nat → Turnover
  | 0 => ⟨v, true⟩
  | n + 1 =>
    match f.putAway v n with
    | .error _ => ⟨v, false⟩
    | .ok w => turnOver f w n

/-- The number of the open file, which is opened again if need be. -/
def held (f : LogFile) (v : Volume) : Except SystemCode (Nat × Volume) :=
  match f.id with
  | some id => .ok (id, v)
  | none => v.openAt f.place

/-- Whether a line is too much for a log file. What is no regular file is never put away. -/
def isFull (f : LogFile) (v : Volume) (id : Nat) (line : String) : Bool :=
  ((v.lookAt? f.place).all fun e => Volume.isRegular e) &&
    sizeLimit ≤ (v.content id).length + line.length

/-- Writes a line to a log file, which may have to give way to a new one. -/
def put (f : LogFile) (v : Volume) (line : String) : LogFile × Volume :=
  match f.held v with
  | .error _ => (f, v)
  | .ok (id, w) =>
    if f.isFull w id line then
      let turned := f.turnOver w backupCount
      if turned.isDone then
        match turned.volume.openAt f.place with
        | .error _ => ({ f with id := none }, turned.volume)
        | .ok (new, u) => ({ f with id := some new }, u.extend new line)
      else ({ f with id := none }, turned.volume)
    else ({ f with id := some id }, w.extend id line)

/-- Writes lines one after another. -/
def putAll (f : LogFile) (v : Volume) : List String → LogFile × Volume
  | [] => (f, v)
  | line :: lines =>
    let (g, w) := f.put v line
    putAll g w lines

end LogFile

end Log

end MediaNaming
