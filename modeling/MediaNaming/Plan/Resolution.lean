import MediaNaming.Disk
import MediaNaming.Log.Record
import MediaNaming.Metadata.Registry
import MediaNaming.Plan.Basic
import MediaNaming.Scheme.Basic
import MediaNaming.Substitute
import MediaNaming.Value.Wording
/-!
# The new name of one file

A scheme is filled in with the metadata of a file, the suffix of the file follows, and illegal
characters are replaced. Whatever stands in the way of a name leaves the file out; only a value
that cannot be written, and a failure whose words cannot be had, are failures of the whole.
-/

namespace MediaNaming

/-- Where planning learns about files, and how it cleans names. -/
structure Planner where
  disk : Disk
  /-- The metadata of the file at an absolute path. -/
  lookup : Volume → Path → Log.Traced Metadata
  substitute : Substitute
  /-- How many calls there is room for inside the one that writes a value. -/
  room : Nat

namespace Planner

/-- The text of a value in messages. -/
def messageText (v : Value) : Log.Traced String :=
  .ofExcept v.wording

/-- Leaves a file out, and says so in the log. -/
def skip (path : Value) (reason : SkipReason) (detail : String) (token : Option String) :
    Log.Traced Resolution := do
  let shown ← messageText path
  let named := match token with
    | some t => if t = "" then "" else ", token=" ++ t
    | none => ""
  let record : Log.Record :=
    ⟨.warning,
      "Ignoring file " ++ shown ++ " [" ++ reason.title ++ ": " ++ detail ++ named ++ "]",
      [(.event, .text Log.Event.fileSkipped.title), (.sourcePath, .text shown),
        (.token, Value.ofText? token),
        (.errorMessage, .text (reason.title ++ ": " ++ detail))], none⟩
  ⟨.ok (.skipped ⟨path, reason, detail, token⟩), [record]⟩

/-- The outcome of filling in a scheme: the text, or the first key without metadata. -/
abbrev Filled := Except String String

/-- Fills a scheme in with metadata. -/
def fill (room : Nat) (metadata : Metadata) : Scheme → Except Failure Filled
  | [] => .ok (.ok "")
  | .literal s :: rest => do return (← fill room metadata rest).map (s ++ ·)
  | .key name :: rest => do
    let s ← Tag.plainText room (metadata.value name)
    if s = "" then return .error name
    else return (← fill room metadata rest).map (s ++ ·)

/-- The log record of a name that was found. -/
def report (shown name : String) : Log.Record :=
  ⟨.info, "Resolved " ++ shown ++ " -> " ++ name,
    [(.event, .text Log.Event.fileResolved.title), (.sourcePath, .text shown),
      (.targetName, .text name)], none⟩

/-- The name of a file whose metadata is known. -/
def nameFrom (pl : Planner) (scheme : Scheme) (path : Value) (file : Path) (metadata : Metadata) :
    Log.Traced Resolution := do
  match ← .ofExcept (fill pl.room metadata scheme) with
  | .error key => skip path .missingMetadata "no value for metadata key" (some key)
  | .ok s =>
    let name := pl.substitute.clean (s ++ file.suffix)
    if name = "" then skip path .emptyName "scheme produced an empty name" none
    else do
      let shown ← messageText path
      ⟨.ok (.named path name), [report shown name]⟩

/-- What becomes of a file whose metadata cannot be had. Only the user's wish to stop goes
further, and what comes in the place of the words for the record. -/
def lookupFailure (path : Value) (f : Failure) : Log.Traced Resolution :=
  if f.isInterrupt then .fail f
  else
    match f.instead? with
    | some g => .fail g
    | none =>
      if f.kind = .unsupportedType then skip path .unsupportedType f.message none
      else skip path .extractionFailed f.text none

/-- Finds the new name of the file that a value names. -/
def resolve (pl : Planner) (v : Volume) (scheme : Scheme) (path : Value) :
    Log.Traced Resolution :=
  match path.filePath? with
  | none => skip path .fileNotValid "path is not a file path" none
  | some file => do
    if ← .ofExcept (pl.disk.isFile v file) then
      let found := pl.lookup v (pl.disk.absolute file)
      match found.outcome with
      | .ok metadata => .after found.logs (pl.nameFrom scheme path file metadata)
      | .error f => .after found.logs (lookupFailure path f)
    else skip path .fileNotValid "could not access file" none

end Planner

end MediaNaming
