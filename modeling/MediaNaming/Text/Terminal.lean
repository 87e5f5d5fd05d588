import MediaNaming.Text.CellWidth
import MediaNaming.Text.Split
/-!
# Text on a terminal

Control characters that would move the cursor or ring the bell are not shown, and a tab leads to
the next column whose number is a multiple of eight. A terminal has a fixed number of columns.
-/

namespace MediaNaming.Text

/-- The columns of a terminal. -/
def terminalWidth : Nat := 2000

/-- Whether a terminal would act on a character instead of showing it. -/
def isTerminalControl (c : Char) : Bool :=
  [7, 8, 11, 12, 13].contains c.toNat

/-- The characters of a text that are shown. -/
def shownChars (cs : List Char) : List Char :=
  cs.filter fun c => !isTerminalControl c

/-- The distance between the places that tabs lead to. -/
def tabWidth : Nat := 8

/-- The number of columns from a place to the next one that a tab may lead to. -/
def columnsToTab (column : Nat) : Nat :=
  (tabWidth - column % tabWidth) % tabWidth

/-- The stretches between tabs with blanks in the place of the tabs, where the first stretch
stands at `column`. A tab takes one blank at least. -/
def expandStretches (column : Nat) : List (List Char) → List Char
  | [] => []
  | [last] => last
  | stretch :: next :: more =>
    let reached := column + lineCells (stretch ++ [' '])
    let blanks := columnsToTab reached
    stretch ++ ' ' :: List.replicate blanks ' ' ++ expandStretches (reached + blanks) (next :: more)

/-- The characters of a line with blanks in the place of tabs. -/
def expandTabs (line : List Char) : List Char :=
  expandStretches 0 (splitOn '\t' line)

/-- Whether a character ends a line when the width of a text is measured. -/
def isLineBreak (c : Char) : Bool :=
  [10, 11, 12, 13, 28, 29, 30, 133, 8232, 8233].contains c.toNat

/-- The cells of the widest line of a text. -/
def widestLine (cs : List Char) : Nat :=
  (splitOn '\n' (cs.map fun c => if isLineBreak c then '\n' else c)).foldl
    (fun n line => max n (lineCells line)) 0

end MediaNaming.Text
