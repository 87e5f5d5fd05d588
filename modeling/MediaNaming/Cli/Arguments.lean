import MediaNaming.Cli.Options
import MediaNaming.Failure
import MediaNaming.Substitute
/-!
# The command line

There are two commands: `plan` shows new names, `rename` gives them to the files. Both take
paths and the same options, and `rename` can be told to change nothing.
-/

namespace MediaNaming.Cli

/-- What a run is to do. -/
inductive Command where
  | plan
  | rename
  deriving DecidableEq, Repr

/-- The name of a command. -/
def Command.title : Command → String
  | plan => "plan"
  | rename => "rename"

/-- A command with its arguments, as they were given. -/
structure Request where
  command : Command
  paths : List String
  scheme : Option OptionValue
  substitute : Option OptionValue
  dryRun : Bool
  verbose : Bool
  quiet : Bool
  deriving DecidableEq, Repr

/-- The name of the program. -/
def programName : String := "media-renamer"

/-- The version of the program. -/
def versionText : String := programName ++ " 0.1.0"

/-- Asks how a command is used. -/
def helpOption : OptionSpec :=
  ⟨["-h", "--help"], .help, "", "show this help message and exit"⟩

/-- Asks for the version. -/
def versionOption : OptionSpec :=
  ⟨["--version"], .version, "", "show program's version number and exit"⟩

/-- The scheme of this run. -/
def schemeOption : OptionSpec :=
  ⟨["--scheme"], .valued, "SCHEME",
    "Naming scheme for this run (defaults to the configured scheme)"⟩

/-- The substitute of this run. -/
def substituteOption : OptionSpec :=
  ⟨["--subchar"], .valued, "CHAR", "Character that replaces \\ : ? * < > | \" / in new names"⟩

/-- Shows every record on the console. -/
def verboseOption : OptionSpec :=
  ⟨["--verbose"], .switch, "", "Show detailed processing information"⟩

/-- Shows errors alone. -/
def quietOption : OptionSpec :=
  ⟨["--quiet"], .switch, "", "Suppress all output except errors"⟩

/-- Changes nothing. -/
def dryRunOption : OptionSpec :=
  ⟨["--dry-run"], .switch, "", "Preview renames without changing files"⟩

/-- Every command. -/
def Command.all : List Command :=
  [plan, rename]

/-- What a command is for. -/
def Command.purpose : Command → String
  | plan => "Show the new names without renaming anything"
  | rename => "Rename files according to the naming scheme"

/-- The words in front of a command. -/
def programGrammar : Grammar :=
  let commands := "\x7b" ++ Text.joined "," (Command.all.map Command.title) ++ "\x7d"
  { program := programName
    options := [helpOption, versionOption]
    positional := .command
    argumentForm := commands ++ " ..."
    argumentEntries := ⟨1, commands, ""⟩ :: Command.all.map fun c => ⟨2, c.title, c.purpose⟩
    introduction := ["Rename photos and music files from their metadata."]
    closing := ["Schemes mix literal text with \x7bmetadata_key\x7d references, e.g. " ++
      "\"Holiday-\x7bdate_time\x7d\" or \"\x7bartist\x7d - \x7btitle\x7d\"."] }

/-- The words behind a command. -/
def Command.grammar (c : Command) : Grammar where
  program := programName ++ " " ++ c.title
  options :=
    [helpOption, schemeOption, substituteOption, verboseOption, quietOption] ++
      (match c with
      | .plan => []
      | .rename => [dryRunOption])
  positional := .words
  argumentForm := "PATH [PATH ...]"
  argumentEntries :=
    [⟨1, "PATH", "Files to rename; directories contribute their immediate files"⟩]
  introduction := []
  closing := []

/-- The command of a name. -/
def Command.ofTitle (s : String) : Except Stop Command :=
  match all.find? (·.title = s) with
  | some c => .ok c
  | none =>
    .error (.usage programName
      ("argument command: invalid choice: " ++ Text.quoted s ++ " (choose from " ++
        Text.joined ", " (all.map fun c => Text.quoted c.title) ++ ")"))

/-- Arguments that are not there. -/
def missing {α : Type} (program name : String) : Except Stop α :=
  .error (.usage program ("the following arguments are required: " ++ name))

/-- The last value that an option was given. -/
def lastValue? (given : List (OptionSpec × OptionValue)) (o : OptionSpec) : Option OptionValue :=
  given.reverse.lookup o

/-- Reads the words behind a command; words without a meaning are left for the caller. -/
def Command.read (c : Command) (argv : List String) : Except Stop (Request × List String) := do
  let found ← c.grammar.scan argv
  match found.arguments with
  | none => missing c.grammar.program "PATH"
  | some paths =>
    let isGiven (o : OptionSpec) : Bool := (lastValue? found.given o).isSome
    return (
      { command := c
        paths := paths.erase "--"
        scheme := lastValue? found.given schemeOption
        substitute := lastValue? found.given substituteOption
        dryRun := c = .plan || isGiven dryRunOption
        verbose := isGiven verboseOption
        quiet := isGiven quietOption },
      found.extras)

/-- Refuses a substitute that cannot stand for illegal characters. -/
def checkSubstitute (r : Request) : Except Stop Request :=
  match r.substitute with
  | none => .ok r
  | some v =>
    if (v.text?.map isValidSubstitute).getD false then .ok r
    else
      .error (.usage programName
        ("--subchar must be a single character other than " ++ Failure.illegalText ++ ", got " ++
          v.shown))

/-- Reads a command line. -/
def Request.read (argv : List String) : Except Stop Request := do
  let found ← programGrammar.scan argv
  match found.arguments with
  | none | some [] => missing programName "command"
  | some (name :: rest) =>
    let command ← Command.ofTitle name
    let (request, extras) ← command.read rest
    let unknown := found.extras ++ extras
    if unknown.isEmpty then checkSubstitute request
    else
      .error (.usage programName ("unrecognized arguments: " ++ Text.joined " " unknown))

end MediaNaming.Cli
