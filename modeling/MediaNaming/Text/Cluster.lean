import MediaNaming.Text.CellWidth
/-!
# Characters shown as one

A line is cut into clusters: a character that takes cells, with the marks behind it that take
none, the selectors that make it a picture and the pictures that are joined to it. A line is
only ever broken or cut short between clusters.
-/

namespace MediaNaming.Text

/-- Characters that are shown as one. -/
structure Cluster where
  chars : List Char
  cells : Nat
  deriving Repr

namespace Cluster

/-- Adds characters behind. -/
def extend (k : Cluster) (more : List Char) (gain : Nat) : Cluster :=
  ⟨k.chars ++ more, k.cells + gain⟩

/-- A cluster of one character at the front of a line, where a joiner or a selector has nothing
to act on. -/
def first (c : Char) : Cluster :=
  ⟨[c], if c = joiner || c = pictureSelector then 0 else charCells c⟩

/-- Continues clusters, the last one first, with the characters behind them; `last` is the last
character that takes cells and has not been made a picture. -/
def continued (last : Option Char) (done : List Cluster) : List Char → List Cluster
  | [] => done.reverse
  | c :: rest =>
    match done with
    | [] => continued (if (first c).cells = 0 then last else some c) [first c] rest
    | k :: ks =>
      if c = joiner then
        match rest with
        | [] => (k.extend [c] 0 :: ks).reverse
        | d :: more => continued last (k.extend [c, d] 0 :: ks) more
      else if c = pictureSelector then
        continued none (k.extend [c] (pictureGain last) :: ks) rest
      else if charCells c = 0 then continued last (k.extend [c] 0 :: ks) rest
      else continued (some c) (⟨[c], charCells c⟩ :: k :: ks) rest

/-- The clusters of a line. -/
def ofLine (cs : List Char) : List Cluster :=
  continued none [] cs

/-- The characters of clusters. -/
def text (ks : List Cluster) : List Char :=
  ks.flatMap chars

/-- As many clusters as fit into some cells. A blank fills a cell that the next one would need
only in part. -/
def front (width : Nat) : List Cluster → List Char
  | [] => []
  | k :: ks =>
    if k.cells ≤ width then k.chars ++ front (width - k.cells) ks
    else if width = 0 then []
    else [' ']

/-- Goes on filling lines; `line` holds the clusters of the line at hand, the last one first,
and `taken` is their number of cells. -/
def brokenFrom (width : Nat) (line : List Cluster) (taken : Nat) :
    List Cluster → List (List Char)
  | [] => if taken = 0 then [] else [text line.reverse]
  | k :: ks =>
    if width < taken + k.cells then
      text line.reverse :: brokenFrom width [k] k.cells ks
    else brokenFrom width (k :: line) (taken + k.cells) ks

/-- Clusters in lines of at most some cells. -/
def broken (width : Nat) (ks : List Cluster) : List (List Char) :=
  brokenFrom width [] 0 ks

end Cluster

end MediaNaming.Text
