import MediaNaming.Cli.Grammar
/-!
# The help of a command

The help shows how a command is written, and then what its arguments and options are for, each on
a line of its own with the purposes below each other.
-/

namespace MediaNaming.Cli

/-- A word with its placeholder, if it has one. -/
def withPlaceholder (word placeholder : String) : String :=
  if placeholder = "" then word else word ++ " " ++ placeholder

namespace OptionSpec

/-- The option in the line that shows the usage. -/
def form (o : OptionSpec) : String :=
  "[" ++ withPlaceholder (o.names.headD "") o.placeholder ++ "]"

/-- The option in the help. -/
def entry (o : OptionSpec) : HelpEntry :=
  ⟨1, Text.joined ", " (o.names.map fun n => withPlaceholder n o.placeholder), o.purpose⟩

end OptionSpec

namespace HelpEntry

/-- The blanks in front of an entry. -/
def indent (e : HelpEntry) : Nat :=
  2 * e.depth

/-- The column that the purposes begin in, at most. -/
def columnLimit : Nat := 24

/-- The column that the purposes of some entries begin in. -/
def column (es : List HelpEntry) : Nat :=
  min columnLimit (es.foldl (fun n e => max n (e.indent + e.title.length)) 0 + 2)

/-- The lines of an entry. A long title has a line of its own. -/
def lines (column : Nat) (e : HelpEntry) : List String :=
  let blanks (n : Nat) : String := String.ofList (List.replicate n ' ')
  let title := blanks e.indent ++ e.title
  if e.purpose = "" then [title]
  else if title.length + 2 ≤ column then [title ++ blanks (column - title.length) ++ e.purpose]
  else [title, blanks column ++ e.purpose]

end HelpEntry

namespace Grammar

/-- The line that shows how a command is written. -/
def usage (g : Grammar) : String :=
  "usage: " ++ Text.joined " " (g.program :: g.options.map OptionSpec.form ++ [g.argumentForm])

/-- The parts of the help, each of some lines. -/
def helpParts (g : Grammar) : List (List String) :=
  let options := g.options.map OptionSpec.entry
  let column := HelpEntry.column (g.argumentEntries ++ options)
  [[g.usage], g.introduction,
    "positional arguments:" :: g.argumentEntries.flatMap (HelpEntry.lines column),
    "options:" :: options.flatMap (HelpEntry.lines column), g.closing]

/-- The lines of the help, with an empty line between its parts. -/
def helpLines (g : Grammar) : List String :=
  (List.intersperse [""] (g.helpParts.filter fun part => !part.isEmpty)).flatten

end Grammar

end MediaNaming.Cli
