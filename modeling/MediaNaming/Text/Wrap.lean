import MediaNaming.Text.Blank
import MediaNaming.Text.Cluster
import MediaNaming.Text.Terminal
/-!
# Filling lines

A text that is wider than the place it is shown in goes on in further lines. Lines are filled
with whole words; a word that is wider than a line is broken, or stands on a line of its own
that is cut short.
-/

namespace MediaNaming.Text

/-- What becomes of a word that is wider than a line. -/
inductive Overflow where
  /-- It goes on in the next lines. -/
  | broken
  /-- It is cut short, with an ellipsis at the end. -/
  | ellipsis
  deriving DecidableEq, Repr

/-- The words of a line, each with the blanks behind it; blanks at the front of the line belong
to the first word. -/
def words : List Char → List (List Char)
  | [] => []
  | c :: rest =>
    match words rest with
    | [] => [[c]]
    | w :: ws =>
      let gap := w.takeWhile isBlank
      if isBlank c || gap.isEmpty then (c :: w) :: ws
      else if gap.length = w.length then (c :: w) :: ws
      else (c :: gap) :: w.drop gap.length :: ws

/-- A line without the blanks at its end. -/
def withoutEndBlanks (cs : List Char) : List Char :=
  (cs.reverse.dropWhile isBlank).reverse

/-- Lines that are being filled. -/
structure Filling where
  /-- The lines before, the last one first. -/
  full : List (List Char)
  /-- The line at hand. -/
  line : List Char
  /-- The cells of the line at hand. -/
  taken : Nat

namespace Filling

/-- No lines yet. -/
def empty : Filling := ⟨[], [], 0⟩

/-- The lines up to the one at hand, the last one first. -/
def closed (f : Filling) : List (List Char) :=
  if f.line.isEmpty then f.full else f.line :: f.full

/-- Begins the next line with a word. -/
def begin (f : Filling) (word : List Char) : Filling :=
  ⟨f.closed, word, lineCells word⟩

/-- Puts a word that is wider than a line on lines of its own; further words may follow on the
last one. -/
def addWide (f : Filling) (width : Nat) (overflow : Overflow) (word : List Char) : Filling :=
  match overflow with
  | .ellipsis => f.begin word
  | .broken =>
    match (Cluster.broken width (Cluster.ofLine word)).reverse with
    | [] => f
    | last :: before => ⟨before ++ f.closed, last, lineCells last⟩

/-- Adds a word to the line at hand, or begins the next line with it. The blanks behind the word
need not fit. -/
def add (width : Nat) (overflow : Overflow) (f : Filling) (word : List Char) : Filling :=
  let bare := lineCells (withoutEndBlanks word)
  if f.taken + bare ≤ width then ⟨f.full, f.line ++ word, f.taken + lineCells word⟩
  else if width < bare then f.addWide width overflow word
  else f.begin word

/-- The lines in order; there is one at least. -/
def lines (f : Filling) : List (List Char) :=
  if f.closed.isEmpty then [[]] else f.closed.reverse

end Filling

/-- A line without those blanks at its end that stand behind the last column, where every
character is taken for one column. -/
def dropExcess (width : Nat) (cs : List Char) : List Char :=
  let blanks := (cs.reverse.takeWhile isBlank).length
  cs.take (cs.length - min blanks (cs.length - width))

/-- A line that is cut short if it is still too wide. -/
def shorten (width : Nat) (overflow : Overflow) (cs : List Char) : List Char :=
  if lineCells cs ≤ width then cs
  else
    match overflow with
    | .broken => Cluster.front width (Cluster.ofLine cs)
    | .ellipsis => Cluster.front (width - 1) (Cluster.ofLine cs) ++ ['…']

/-- The lines that one line without tabs takes. -/
def wrapLine (width : Nat) (overflow : Overflow) (cs : List Char) : List (List Char) :=
  ((words cs).foldl (Filling.add width overflow) Filling.empty).lines.map fun line =>
    shorten width overflow (dropExcess width line)

/-- The lines that a text takes. -/
def wrap (width : Nat) (overflow : Overflow) (cs : List Char) : List (List Char) :=
  (splitOn '\n' cs).flatMap fun line => wrapLine width overflow (expandTabs line)

end MediaNaming.Text
