import MediaNaming.Log.CompactPath
import MediaNaming.Log.Record
import MediaNaming.Value.Wording
/-!
# Events on one line

A record with an event is shown on one line: an icon, what happened to which file, and details
in parentheses. Records of the start and the end of a run show their message.
-/

namespace MediaNaming.Log

/-- How the records of an event are shown. -/
structure EventLook where
  icon : String
  color : Color
  /-- The words in front of the file. -/
  opening : String

/-- The look of every event. -/
def Event.look : Event → EventLook
  | planStart => ⟨"🚀", .cyan, ""⟩
  | planComplete => ⟨"✅", .green, ""⟩
  | fileResolved => ⟨"📝", .blue, "Planned "⟩
  | fileSkipped => ⟨"↪️", .yellow, "Skipped "⟩
  | renameStart => ⟨"🚀", .cyan, ""⟩
  | renameComplete => ⟨"✅", .green, ""⟩
  | pairDone => ⟨"📦", .magenta, "Renamed "⟩
  | pairSkipped => ⟨"⛔", .red, "Not renamed "⟩

/-- Every event. -/
def Event.all : List Event :=
  [planStart, planComplete, fileResolved, fileSkipped, renameStart, renameComplete, pairDone,
    pairSkipped]

/-- The look of an event by its name; unknown events have a look of their own. -/
def lookOf (name : String) : EventLook :=
  match Event.all.find? (·.title = name) with
  | some e => e.look
  | none => ⟨"ℹ️", .blue, ""⟩

/-- Whether a name is that of the start or the end of a run. -/
def isBoundary (name : String) : Bool :=
  ".start".toList.isSuffixOf name.toList || ".complete".toList.isSuffixOf name.toList

namespace Record

/-- The text of an attribute that counts as something. -/
def textOf? (r : Record) (a : Attribute) : Except Failure (Option String) :=
  match r.get? a with
  | none => .ok none
  | some v => if v.isTruthy then v.wording.map some else .ok none

/-- The details behind the file. -/
def details (r : Record) : Except Failure (List String) := do
  let token ← r.textOf? .token
  let problem ← r.textOf? .errorMessage
  return (token.map ("token=" ++ ·)).toList ++ problem.toList

/-- What happened to which file. -/
def body (r : Record) (look : EventLook) : Except Failure Styled := do
  let start := Styled.empty.append look.opening
  let withSource :=
    match ← r.textOf? .sourcePath with
    | some s => start.appendStyled (compactPath s)
    | none => start
  let withTarget :=
    match ← r.textOf? .targetName with
    | some s => (withSource.append " → ").appendIn ⟨.white, true⟩ s
    | none => withSource
  let details ← r.details
  if details.isEmpty then return withTarget
  else return withTarget.append (" (" ++ Text.joined ", " details ++ ")")

/-- The line of a record with an event. -/
def eventLine? (r : Record) : Except Failure (Option Styled) :=
  match r.get? .event with
  | some (.text name) => do
    let look := lookOf name
    let icon := Styled.empty.appendIn ⟨look.color, true⟩ (look.icon ++ " ")
    let rest ← if isBoundary name then pure (Styled.empty.append r.message) else r.body look
    return some (icon.appendOver ⟨look.color, false⟩ rest)
  | _ => .ok none

end Record

end MediaNaming.Log
