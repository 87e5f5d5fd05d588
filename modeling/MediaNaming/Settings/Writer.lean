import MediaNaming.Settings.Basic
import MediaNaming.Value.Wording
/-!
# Settings as text

The text of a configuration file, with a comment in front of every value. A log file that is not
set has no line of its own. Parts of a scheme inside a value are written as mappings from the
name of what they hold.
-/

namespace MediaNaming.Settings

/-- Puts a backslash in front of backslashes and quotes. -/
def escapeChars (cs : List Char) : List Char :=
  cs.flatMap fun c => if c = '\\' || c = '"' then ['\\', c] else [c]

/-- A text between quotes. -/
def quotedText (s : String) : String :=
  "\"" ++ String.ofList (escapeChars s.toList) ++ "\""

mutual

/-- The kind of a part of a value that cannot be the key of a mapping. -/
def changingKind? : Value → Option String
  | .mapping entries => some (Value.mapping entries).kindName
  | .list items => some (Value.list items).kindName
  | .tuple items => changingKindOf? items
  | _ => none

/-- The same for the first of some values that has such a part. -/
def changingKindOf? : List Value → Option String
  | [] => none
  | v :: vs => (changingKind? v).or (changingKindOf? vs)

end

mutual

/-- A value with mappings in the place of parts of a scheme. -/
def exported : Value → Except Failure Value
  | .literal v => (exported v).map fun w => .mapping [(.text "text", w)]
  | .key v => (exported v).map fun w => .mapping [(.text "name", w)]
  | .list items => (exportedItems items).map .list
  | .tuple items => (exportedItems items).map .tuple
  | .mapping entries => (exportedEntries entries).map .mapping
  | .frame v => (exported v).map fun _ => .frame v
  | .wrapper v => (exported v).map fun _ => .wrapper v
  | .stream items stop => .error (.notCopied (Value.stream items stop).kindName)
  | v => .ok v

/-- The items of a sequence with mappings in the place of parts of a scheme. -/
def exportedItems : List Value → Except Failure (List Value)
  | [] => .ok []
  | v :: vs => do return (← exported v) :: (← exportedItems vs)

/-- The entries of a mapping with mappings in the place of parts of a scheme. -/
def exportedEntries : List (Value × Value) → Except Failure (List (Value × Value))
  | [] => .ok []
  | (k, v) :: rest => do
    let key ← exported k
    let value ← exported v
    match changingKind? key with
    | some kindName => .error (.notKey kindName)
    | none => return (key, value) :: (← exportedEntries rest)

end

/-- A value in a configuration file. -/
def valueText : Value → Except Failure String
  | .bool b => .ok (if b then "true" else "false")
  | .text s => .ok (quotedText s)
  | .path p => .ok (quotedText p.text)
  | v => v.wording

/-- The lines of a configuration file. -/
def lines (s : Settings) : Except Failure (List String) := do
  let scheme ← exported s.scheme
  let substitute ← exported s.substitute
  let logFile ← exported s.logFile
  let scheme ← valueText scheme
  let substitute ← valueText substitute
  let logFile ← match logFile with
    | .null => pure []
    | v => do pure ["log_file = " ++ (← valueText v)]
  return ["# media-renamer configuration file",
    "",
    "# Default naming scheme. Text in braces names a metadata key,",
    "# everything else is copied verbatim. Use \x7b\x7b and \x7d\x7d for literal braces.",
    "# Example: naming_scheme = \"Holiday-\x7bdate_time\x7d\"",
    "naming_scheme = " ++ scheme,
    "",
    "# Character substituted for \\ : ? * < > | \" / in generated names",
    "substitution_character = " ++ substitute,
    "",
    "# Log file path (optional)",
    "# Example: log_file = \"/path/to/logs/media_renamer.log\""] ++ logFile ++ [""]

/-- The text of a configuration file. -/
def render (s : Settings) : Except Failure String :=
  s.lines.map (Text.joined "\n")

end MediaNaming.Settings
