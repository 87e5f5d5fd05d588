import MediaNaming.Text.Terminal
/-!
# Styled text

A text with styles on stretches of it, as a terminal shows it. Only characters that a terminal
shows belong to the text.
-/

namespace MediaNaming.Log

/-- The colors of a terminal. -/
inductive Color where
  | cyan
  | green
  | blue
  | yellow
  | magenta
  | red
  | white
  deriving DecidableEq, Repr

/-- The name of a color. -/
def Color.title : Color → String
  | cyan => "cyan"
  | green => "green"
  | blue => "blue"
  | yellow => "yellow"
  | magenta => "magenta"
  | red => "red"
  | white => "white"

/-- How characters look. -/
structure Style where
  color : Color
  bold : Bool
  deriving DecidableEq, Repr

/-- A style as text. -/
def Style.text (s : Style) : String :=
  (if s.bold then "bold " else "") ++ s.color.title

/-- A stretch of text with a style. -/
structure Span where
  first : Nat
  /-- The place behind the last character. -/
  last : Nat
  style : Style
  deriving DecidableEq, Repr

/-- A text with styles on stretches of it. -/
structure Styled where
  chars : List Char
  spans : List Span
  deriving DecidableEq, Repr

namespace Styled

/-- No text. -/
def empty : Styled := ⟨[], []⟩

/-- The text without its styles. -/
def plain (t : Styled) : String :=
  String.ofList t.chars

/-- Puts text behind, without a style of its own. -/
def append (t : Styled) (s : String) : Styled :=
  { t with chars := t.chars ++ Text.shownChars s.toList }

/-- Puts text behind, in a style. No text leaves no stretch. -/
def appendIn (t : Styled) (style : Style) (s : String) : Styled :=
  if s = "" then t
  else
    let more := Text.shownChars s.toList
    ⟨t.chars ++ more, t.spans ++ [⟨t.chars.length, t.chars.length + more.length, style⟩]⟩

/-- The stretches of a text that starts at a place. -/
def spansFrom (t : Styled) (place : Nat) : List Span :=
  t.spans.map fun s => { s with first := s.first + place, last := s.last + place }

/-- Puts styled text behind. -/
def appendStyled (t more : Styled) : Styled :=
  ⟨t.chars ++ more.chars, t.spans ++ more.spansFrom t.chars.length⟩

/-- Puts styled text behind, with a style for all of it under its own ones. -/
def appendOver (t : Styled) (style : Style) (more : Styled) : Styled :=
  ⟨t.chars ++ more.chars,
    t.spans ++ ⟨t.chars.length, t.chars.length + more.chars.length, style⟩ ::
      more.spansFrom t.chars.length⟩

end Styled

end MediaNaming.Log
