import MediaNaming.Disk
import MediaNaming.Log.Record
import MediaNaming.Plan.Resolution
/-!
# Applying a plan

The pairs of a plan are renamed one after another, each file inside its own directory. A pair
that cannot be renamed is left out and the next one follows; nothing is taken back.
-/

namespace MediaNaming

/-- What became of one pair of a plan. -/
structure Outcome where
  oldPath : Value
  newName : Value
  destination : Option Path
  reason : Option SkipReason
  detail : String

/-- Whether the file has been renamed. -/
def Outcome.isRenamed (o : Outcome) : Bool :=
  o.reason.isNone

namespace Rename

/-- The outcome of a pair together with the volume after it. -/
abbrev Step := Log.Traced (Outcome × Volume)

/-- Leaves a pair out, and says so in the log. -/
def skip (v : Volume) (oldPath newName : Value) (reason : SkipReason) (detail : String) : Step := do
  let source ← Planner.messageText oldPath
  let target ← Planner.messageText newName
  let record : Log.Record :=
    ⟨.warning,
      "Ignoring rename for " ++ source ++ " => " ++ target ++ " [" ++ reason.title ++ ": " ++
        detail ++ "]",
      [(.event, .text Log.Event.pairSkipped.title), (.sourcePath, .text source),
        (.targetName, .text target), (.errorMessage, .text (reason.title ++ ": " ++ detail))],
      none⟩
  ⟨.ok (⟨oldPath, newName, none, some reason, detail⟩, v), [record]⟩

/-- The new name that a value is, or why it is none. A name stays inside its directory. -/
def bareName : Value → Except String String
  | .text s =>
    if s = "" then .error "new file name is not a non-empty string"
    else if s.toList.contains '/' || s = "." || s = ".." then
      .error "new file name must not contain a directory"
    else if Path.hasNull s then .error "new file name contains a null byte"
    else .ok s
  | _ => .error "new file name is not a non-empty string"

/-- Renames a file to a path next to it, where something else may stand. -/
def moveFile (disk : Disk) (v : Volume) (oldPath : Value) (newName : String)
    (source destination : Path) : Step :=
  match disk.rename v source destination with
  | .error f =>
    if f.kind.isSystem || f.kind.isValue then
      match f.instead? with
      | some g => .fail g
      | none => skip v oldPath (.text newName) .renameError f.text
    else .fail f
  | .ok w =>
    ⟨.ok (⟨oldPath, .text newName, some destination, none, ""⟩, w),
      [⟨.info, "Renamed " ++ source.text ++ " -> " ++ destination.text,
        [(.event, .text Log.Event.pairDone.title), (.sourcePath, .text source.text),
          (.targetName, .text newName)], none⟩]⟩

/-- The renaming that a log record reports: the path of the file, and its path from then on. -/
def moved? (r : Log.Record) : Option (Path × Path) :=
  match r.get? .event, r.get? .sourcePath, r.get? .targetName with
  | some (.text event), some (.text source), some (.text name) =>
    if event = Log.Event.pairDone.title then
      let p := Path.ofText source
      some (p, p.parent.child name)
    else none
  | _, _, _ => none

/-- Whether something else than the source stands at the destination. -/
def isTaken (disk : Disk) (v : Volume) (source destination : Path) : Except Failure Bool := do
  if ← disk.isThere v destination then return !(← disk.sameFile v source destination)
  else return false

/-- Renames a file to a name that has been found acceptable. -/
def renameFile (disk : Disk) (v : Volume) (oldPath : Value) (file : Path) (newName : String) :
    Step :=
  let source := disk.absolute file
  let destination := source.parent.child newName
  if destination = source then skip v oldPath (.text newName) .unchanged "name already matches"
  else do
    if ← .ofExcept (isTaken disk v source destination) then
      skip v oldPath (.text newName) .destinationExists (destination.text ++ " already exists")
    else moveFile disk v oldPath newName source destination

/-- Renames one pair, or leaves it out. -/
def renamePair (disk : Disk) (v : Volume) (oldPath newName : Value) : Step :=
  match oldPath.filePath? with
  | none => skip v oldPath newName .fileNotValid "source is not a path"
  | some file => do
    if ← .ofExcept (disk.isFile v file) then
      match bareName newName with
      | .error objection => skip v oldPath newName .fileNotValid objection
      | .ok name => renameFile disk v oldPath file name
    else skip v oldPath newName .fileNotValid "could not access source file"

/-- What comes of applying a plan: the volume is changed even if a failure stops it. -/
structure Run where
  outcomes : List Outcome
  stop : Option Failure
  volume : Volume
  logs : List Log.Record

/-- Renames pairs in order, up to a failure. -/
def renameAll (disk : Disk) (v : Volume) : List (Value × Value) → Run
  | [] => ⟨[], none, v, []⟩
  | (oldPath, newName) :: rest =>
    let first := renamePair disk v oldPath newName
    match first.outcome with
    | .error f => ⟨[], some f, v, first.logs⟩
    | .ok (o, w) =>
      let more := renameAll disk w rest
      ⟨o :: more.outcomes, more.stop, more.volume, first.logs ++ more.logs⟩

/-- The record at the start of renaming. -/
def startRecord (total : Nat) : Log.Record :=
  .summary .renameStart ("Renaming " ++ Number.text total ++ " file(s)") total 0 0

/-- The record at the end of renaming. -/
def endRecord (total succeeded skipped : Nat) : Log.Record :=
  .summary .renameComplete
    ("Renamed " ++ Number.text succeeded ++ " of " ++ Number.text total ++ " file(s), skipped " ++
      Number.text skipped) total succeeded skipped

/-- What comes of a request to rename. -/
structure Renaming where
  outcome : Except Failure (List Outcome)
  volume : Volume
  logs : List Log.Record

/-- Applies the entries of a plan. -/
def executeEntries (disk : Disk) (v : Volume) (plan : Entries) : Renaming :=
  let run := renameAll disk v plan
  let logs := startRecord plan.length :: run.logs
  match run.stop with
  | some f => ⟨.error f, run.volume, logs⟩
  | none =>
    let done := run.outcomes.countP Outcome.isRenamed
    ⟨.ok run.outcomes, run.volume,
      logs ++ [endRecord plan.length done (run.outcomes.length - done)]⟩

/-- Applies whatever a caller hands in, which has to be a mapping. -/
def execute (disk : Disk) (v : Volume) (plan : Value) : Renaming :=
  match plan with
  | .mapping entries => executeEntries disk v entries
  | other => ⟨.error (.notPlan other.kindName), v, []⟩

end Rename

end MediaNaming
