import MediaNaming.Text.Pictograph
import MediaNaming.Text.Wrap
/-!
# Printed text

Brackets around the name of a style are shown as they are. They set the text in front of them
apart from the text behind them, so that no name of a pictograph goes on across them.
-/

namespace MediaNaming.Cli.Markup

/-- Whether a bracket in front of a text would open a style: the name of one begins there and is
closed before another bracket opens. -/
def opensStyle : List Char → Bool
  | [] => false
  | c :: rest =>
    (('a' ≤ c && c ≤ 'z') || c = '#' || c = '/' || c = '@') &&
      (rest.takeWhile (· ≠ '[')).contains ']'

/-- The number of characters up to the bracket that closes the name of a style. -/
def styleLength (cs : List Char) : Nat :=
  (cs.takeWhile (· ≠ ']')).length + 1

/-- Puts a character in front of the first of some stretches. -/
def onFirst (c : Char) : List (List Char) → List (List Char)
  | [] => [[c]]
  | stretch :: more => (c :: stretch) :: more

/-- Cuts a text in front of and behind names of styles in brackets; the first `inside`
characters belong to such a name. -/
def stretchesFrom (inside : Nat) : List Char → List (List Char)
  | [] => [[]]
  | c :: rest =>
    match inside with
    | 1 => [c] :: stretchesFrom 0 rest
    | k + 2 => onFirst c (stretchesFrom (k + 1) rest)
    | 0 =>
      if c = '[' && opensStyle rest then [] :: onFirst c (stretchesFrom (styleLength rest) rest)
      else onFirst c (stretchesFrom 0 rest)

/-- The stretches of a text: the names of styles in brackets, and what stands between them. -/
def stretches (cs : List Char) : List (List Char) :=
  stretchesFrom 0 cs

/-- A stretch without the backslashes in front of brackets. -/
def bareBrackets : List Char → List Char
  | [] => []
  | c :: rest =>
    if c = '\\' && rest.head? = some '[' then bareBrackets rest else c :: bareBrackets rest

/-- A text as it is printed, with pictographs in the place of their names. -/
def printed (s : String) : List Char :=
  Text.shownChars
    ((stretches s.toList).flatMap fun stretch => Text.Pictograph.drawn (bareBrackets stretch))

/-- The lines that a text takes on a terminal. -/
def printedLines (s : String) : List String :=
  (Text.wrap Text.terminalWidth .broken (printed s)).map String.ofList

end MediaNaming.Cli.Markup
