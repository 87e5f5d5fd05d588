import MediaNaming.Value.Wording
/-!
# Cleaning names

Nine characters cannot stand in a file name everywhere. A substitute is one character outside
them, and cleaning a name puts it in the place of each.
-/

namespace MediaNaming

/-- The characters that file systems reject in names. -/
def illegalCharacters : List Char :=
  Failure.illegalText.toList

/-- Whether a character is rejected in names. -/
def isIllegal (c : Char) : Bool :=
  illegalCharacters.contains c

/-- Whether a text can be a substitute: it is one character, and that character is not
illegal. -/
def isValidSubstitute (s : String) : Bool :=
  match s.toList with
  | [c] => !isIllegal c
  | _ => false

/-- A character that can stand in for an illegal one. -/
structure Substitute where
  char : Char
  legal : isIllegal char = false

namespace Substitute

/-- The substitute that a text is, if it is one. -/
def ofText? (s : String) : Option Substitute :=
  match s.toList with
  | [c] => if h : isIllegal c = false then some ⟨c, h⟩ else none
  | _ => none

/-- The substitute that a value is. -/
def ofValue (v : Value) : Except Failure Substitute :=
  let refused : Except Failure Substitute :=
    v.shownWording.bind fun shown => .error (.badSubstitute shown)
  match v with
  | .text s =>
    match ofText? s with
    | some sub => .ok sub
    | none => refused
  | _ => refused

/-- The substitute as text. -/
def text (sub : Substitute) : String :=
  String.singleton sub.char

/-- The underscore. -/
def default : Substitute :=
  ⟨'_', by decide⟩

/-- Puts the substitute in the place of an illegal character. -/
def cleanChar (sub : Substitute) (c : Char) : Char :=
  if isIllegal c then sub.char else c

/-- Cleans the characters of a name. -/
def cleanChars (sub : Substitute) (cs : List Char) : List Char :=
  cs.map sub.cleanChar

/-- Cleans a name. -/
def clean (sub : Substitute) (name : String) : String :=
  String.ofList (sub.cleanChars name.toList)

end Substitute

end MediaNaming
