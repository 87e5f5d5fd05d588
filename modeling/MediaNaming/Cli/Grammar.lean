import MediaNaming.Text.Split
/-!
# What a command line may hold

A command has options, each with its names, and arguments. A grammar says which, and tells what
they are for.
-/

namespace MediaNaming.Cli

/-- What an option does. -/
inductive OptionKind where
  /-- Is there or not. -/
  | switch
  /-- Takes a value. -/
  | valued
  /-- Shows how the command is used, and ends it. -/
  | help
  /-- Shows the version, and ends the command. -/
  | version
  deriving DecidableEq, Repr

/-- An option with its names. -/
structure OptionSpec where
  names : List String
  kind : OptionKind
  /-- What stands for the value in the help; empty if there is none. -/
  placeholder : String
  /-- What the option is for. -/
  purpose : String
  deriving DecidableEq, Repr

/-- The option in messages. -/
def OptionSpec.title (o : OptionSpec) : String :=
  Text.joined "/" o.names

/-- Which arguments a command takes. -/
inductive Positional where
  /-- One or more words up to the next option. -/
  | words
  /-- One word, and all that follows. -/
  | command
  deriving DecidableEq, Repr

/-- A line of the help. -/
structure HelpEntry where
  /-- How many steps the line is moved to the right. -/
  depth : Nat
  title : String
  /-- What is said about it; it may be nothing. -/
  purpose : String
  deriving DecidableEq, Repr

/-- The options and arguments of a command. -/
structure Grammar where
  /-- The name of the command in messages. -/
  program : String
  options : List OptionSpec
  positional : Positional
  /-- The arguments in the line that shows the usage. -/
  argumentForm : String
  /-- The arguments in the help. -/
  argumentEntries : List HelpEntry
  /-- What the help says at its start. -/
  introduction : List String
  /-- What the help says at its end. -/
  closing : List String

end MediaNaming.Cli
