import MediaNaming.Text.CharSet
/-!
# Blank characters

The characters with the Unicode property White_Space, together with the four information
separators U+001C to U+001F. Stripping a text removes them from both ends.
-/

namespace MediaNaming.Text

/-- Every blank character. -/
def blanks : CharSet := .mk
  [(9, 13), (28, 32), (133, 133), (160, 160), (5760, 5760), (8192, 8202), (8232, 8233),
   (8239, 8239), (8287, 8287), (12288, 12288)]

/-- Whether a character is white space. -/
def isBlank (c : Char) : Bool :=
  blanks.contains c

/-- Whether a character separates information rather than words. -/
def isSeparatorControl (c : Char) : Bool :=
  28 ≤ c.toNat && c.toNat ≤ 31

/-- Drops the characters of a class from both ends. -/
def trim (p : Char → Bool) (cs : List Char) : List Char :=
  ((cs.dropWhile p).reverse.dropWhile p).reverse

/-- The text without white space at its ends. -/
def strip (s : String) : String :=
  String.ofList (trim isBlank s.toList)

/-- Whether a text is empty or white space throughout. -/
def isBlankText (s : String) : Bool :=
  s.toList.all isBlank

end MediaNaming.Text
