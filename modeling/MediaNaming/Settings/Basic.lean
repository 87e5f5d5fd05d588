import MediaNaming.Text.Blank
import MediaNaming.Value.Basic
/-!
# Settings

Three values can be configured: the naming scheme, the substitute for illegal characters and the
log file. They are kept as they were given; only the log file becomes a path. What they mean is
decided where they are used.
-/

namespace MediaNaming

/-- The configured values. -/
structure Settings where
  scheme : Value
  substitute : Value
  logFile : Value

namespace Settings

/-- The scheme that is used without configuration. -/
def defaultScheme : String := "Renamed-default-"

/-- The substitute that is used without configuration. -/
def defaultSubstitute : String := "_"

/-- A text names a log file unless it is blank. -/
def logPath : Value → Value
  | .text s => if Text.isBlankText s then .null else .path (Path.ofText s)
  | v => v

/-- Settings from the values that are given; the others have their defaults. -/
def ofValues (scheme substitute logFile : Option Value) : Settings where
  scheme := scheme.getD (.text defaultScheme)
  substitute := substitute.getD (.text defaultSubstitute)
  logFile := logPath (logFile.getD .null)

/-- The settings without any configuration. -/
def default : Settings :=
  ofValues none none none

/-- The names of the values in a configuration. -/
def keys : List String :=
  ["naming_scheme", "substitution_character", "log_file"]

/-- The settings in a table. -/
def ofTable (table : Entries) : Settings :=
  ofValues (table.get? (.text "naming_scheme")) (table.get? (.text "substitution_character"))
    (table.get? (.text "log_file"))

/-- The names in a table that mean nothing, sorted. -/
def unknownKeys (table : Entries) : List String :=
  (table.filterMap fun e =>
    match e.1 with
    | .text s => if keys.contains s then none else some s
    | _ => none).mergeSort fun a b => !decide (b < a)

end Settings

end MediaNaming
