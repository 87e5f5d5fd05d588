import MediaNaming.Log.EventLine
import MediaNaming.Log.Rotation
import MediaNaming.Settings.Location
import MediaNaming.Text.Wrap
/-!
# Where records go

Records are shown on the console and written to a log file, each from a level on. Setting both
up replaces what was there; if the log file cannot be opened, the console alone stays.
-/

namespace MediaNaming.Log

/-- Where records go. -/
structure Handlers where
  console : Level
  file : Option LogFile
  deriving DecidableEq, Repr

/-- What comes of setting up. -/
structure Installation where
  handlers : Handlers
  volume : Volume
  failure : Option Failure

namespace Handlers

/-- The console alone, from level info on. -/
def standard : Handlers := ⟨.info, none⟩

/-- The path that a value names as a log file, with the home directory put in. -/
def logPath (s : Surroundings) : Value → Except Failure Path
  | .path p => expand p
  | .text t => expand (Path.ofText t)
  | .octets _ => .error .octetsAsPath
  | v => .error (.notPath v.kindName)
where
  /-- Puts the home directory in. -/
  expand (p : Path) : Except Failure Path :=
    match p.expandHome? s.homes with
    | some q => .ok q
    | none => .error .unknownHome

/-- The log file that a path leads to. -/
def logFile? (v : Volume) (cwd p : Path) (level : Level) : Option LogFile :=
  match v.find .followed cwd p with
  | .ok (name :: dir) =>
    match v.entry? (name :: dir) with
    | some (.file id) => some ⟨p, ⟨dir, name⟩, some id, level⟩
    | _ => none
  | _ => none

/-- Opens a log file, with the directories above it. -/
def openFile (s : Surroundings) (v : Volume) (console : Level) (p : Path) (level : Level) :
    Installation :=
  let making := v.makeDirectories s.cwd p.parent
  match making.failure with
  | some f => ⟨⟨console, none⟩, making.volume, some f⟩
  | none =>
    match making.volume.append? s.cwd p "" with
    | .error f => ⟨⟨console, none⟩, making.volume, some f⟩
    | .ok w => ⟨⟨console, logFile? w s.cwd p level⟩, w, none⟩

/-- Sets up the console, and the log file if there is one. -/
def install (s : Surroundings) (v : Volume) (file : Value) (console level : Level) :
    Installation :=
  match file with
  | .null => ⟨⟨console, none⟩, v, none⟩
  | _ =>
    match (logPath s file).bind fun p => v.resolve? s.cwd p with
    | .error f => ⟨⟨console, none⟩, v, some f⟩
    | .ok p => openFile s v console p level

/-- What the console shows of a record. -/
def consoleText (r : Record) : Except Failure (List Char) :=
  r.eventLine?.map fun line =>
    match line with
    | some t => t.chars
    | none => Text.shownChars r.message.toList

/-- The lines that the console shows of a record. -/
def consoleLines (h : Handlers) (r : Record) : Except Failure (List String) :=
  if r.level.rank < h.console.rank then .ok []
  else
    (consoleText r).map fun cs =>
      (Text.wrap Text.terminalWidth .broken cs).map String.ofList

/-- The line of a record in a log file, with the time that it was made. -/
def fileLine (stamp : String) (r : Record) : String :=
  stamp ++ " - media_renamer - " ++ r.level.title ++ " - " ++ r.message ++ "\n"

/-- Writes records to the log file. -/
def write (h : Handlers) (v : Volume) (stamp : String) (rs : List Record) : Handlers × Volume :=
  match h.file with
  | none => (h, v)
  | some f =>
    let due := rs.filter fun r => f.level.rank ≤ r.level.rank
    let (g, w) := f.putAll v (due.map (fileLine stamp))
    ({ h with file := some g }, w)

end Handlers

end MediaNaming.Log
