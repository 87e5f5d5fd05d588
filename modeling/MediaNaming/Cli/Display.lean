import MediaNaming.Cli.Table
import MediaNaming.Plan.Basic
import MediaNaming.Rename
import MediaNaming.Value.Wording
/-!
# Plans and results on the screen

A plan is shown as a table with one row for each file, and the files left out are listed below
it. A summary counts what was planned and renamed. Everything is a list of lines.
-/

namespace MediaNaming.Cli.Display

/-- The text of a planned name, which has to be one. -/
def nameText : Value → Except Failure String
  | .text s => .ok s
  | v => .error (.notSearchable v.kindName)

/-- The row of a planned name. -/
def planRow (e : Value × Value) : Except Failure (List String) := do
  let path := Path.ofText (← e.1.wording)
  return [path.parent.text, path.name, ← nameText e.2]

/-- The line of a file that is left out. -/
def skippedText (s : Skipped) : Except Failure String := do
  let token := match s.token with
    | some t => if t = "" then "" else " [" ++ t ++ "]"
    | none => ""
  return "  • " ++ (← s.path.wording) ++ ": " ++ s.reason.title ++ token ++ " (" ++ s.detail ++ ")"

/-- The lines of printed texts in order. -/
def allLines (texts : List String) : List String :=
  texts.flatMap Markup.printedLines

/-- The lines of a plan. -/
def planLines (entries : Entries) (skipped : List Skipped) (dryRun : Bool) :
    Except Failure (List String) := do
  let rows ← entries.mapM planRow
  let planned :=
    if rows.isEmpty then ["No files could be renamed with this scheme."]
    else
      Table.lines (if dryRun then "Planned renames (dry run)" else "Planned renames")
        ["Directory", "Current name", "New name"] rows
  let leftOut := allLines (← skipped.mapM skippedText)
  if skipped.isEmpty then return planned
  else return planned ++ ["", "Skipped " ++ Number.text skipped.length ++ " file(s):"] ++ leftOut

/-- The line of a pair that is not renamed. -/
def failedText (o : Outcome) : Except Failure String := do
  return "  • " ++ (← o.oldPath.wording) ++ " => " ++ (← o.newName.wording) ++ ": " ++
    ((o.reason.map SkipReason.title).getD "None") ++ " (" ++ o.detail ++ ")"

/-- The lines about pairs that were to be renamed. -/
def outcomeLines (outcomes : List Outcome) : Except Failure (List String) := do
  let failed := outcomes.filter fun o => !o.isRenamed
  let renamed := "Renamed: " ++ Number.text (outcomes.countP Outcome.isRenamed)
  let left := allLines (← failed.mapM failedText)
  if failed.isEmpty then return [renamed]
  else return [renamed, "Not renamed: " ++ Number.text failed.length] ++ left

/-- The lines of a summary. -/
def summaryLines (total planned : Int) (outcomes : Option (List Outcome)) :
    Except Failure (List String) := do
  let counts := ["", "Summary:", "Files given: " ++ String.ofList (Number.signedDigits total),
    "Planned: " ++ String.ofList (Number.signedDigits planned)] ++
    (if total = planned then []
    else ["Not plannable: " ++ String.ofList (Number.signedDigits (total - planned))])
  match outcomes with
  | none => return counts
  | some os => return counts ++ (← outcomeLines os)

end MediaNaming.Cli.Display
