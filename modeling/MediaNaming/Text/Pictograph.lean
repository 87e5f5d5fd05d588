import MediaNaming.Text.Blank
import MediaNaming.Text.CellWidth
import MediaNaming.Text.LetterCase
import MediaNaming.Text.Pictograph.Names
import MediaNaming.Text.Split
/-!
# Pictographs written by name

A name between two colons stands for a pictograph, whatever the case of its letters. Behind the
name, `-text` asks for a plain character and `-emoji` for a picture. A name that is not known
stays as it is, with both its colons.
-/

namespace MediaNaming.Text

namespace Pictograph

/-- A name with its characters, from a word of the listing. -/
def entry? (word : List Char) : Option (String × List Char) :=
  match word.dropWhile (· ≠ '=') with
  | _ :: chars => some (String.ofList (word.takeWhile (· ≠ '=')), chars)
  | [] => none

/-- The names with their characters. -/
def entries : List (String × List Char) :=
  (splitOn ' ' (listing.toList.map fun c => if c = '\n' then ' ' else c)).filterMap entry?

/-- The characters of a name. -/
def find? (name : String) : Option (List Char) :=
  entries.lookup name

/-- Asks for the character in front of it as plain text. -/
def textSelector : Char := Char.ofNat 0xFE0E

/-- The ends of a name between colons, with the characters that they put behind the
pictograph. -/
def endings : List (List Char × List Char) :=
  [("-emoji:".toList, [pictureSelector]), ("-text:".toList, [textSelector]), ([':'], [])]

/-- A name between colons. -/
structure Code where
  name : List Char
  /-- The end of the name with the colon, and what it puts behind the pictograph. -/
  ending : List Char × List Char

namespace Code

/-- Reads a name behind the first colon. -/
def read? : List Char → Option Code
  | [] => none
  | c :: rest =>
    match endings.find? fun e => e.1.isPrefixOf (c :: rest) with
    | some e => some ⟨[], e⟩
    | none =>
      if isBlank c then none
      else (read? rest).map fun k => { k with name := c :: k.name }

/-- The number of characters behind the first colon. -/
def length (k : Code) : Nat :=
  k.name.length + k.ending.1.length

/-- What stands in the place of a name between colons. -/
def shown (k : Code) : List Char :=
  match find? (lower (String.ofList k.name)) with
  | some chars => chars ++ k.ending.2
  | none => ':' :: k.name ++ k.ending.1

end Code

/-- A text with pictographs in the place of their names, where the first `skipped` characters
belong to a name that has been dealt with. -/
def drawnFrom (skipped : Nat) : List Char → List Char
  | [] => []
  | c :: rest =>
    match skipped with
    | k + 1 => drawnFrom k rest
    | 0 =>
      if c = ':' then
        match Code.read? rest with
        | some code => code.shown ++ drawnFrom code.length rest
        | none => c :: drawnFrom 0 rest
      else c :: drawnFrom 0 rest

/-- A text with pictographs in the place of their names. -/
def drawn (cs : List Char) : List Char :=
  drawnFrom 0 cs

end Pictograph

end MediaNaming.Text
