import MediaNaming.Log.Record
import MediaNaming.Metadata.Tag
import MediaNaming.Scheme.Text
import MediaNaming.Settings.Basic
import MediaNaming.Substitute
/-!
# What settings mean

The scheme and the substitute of some settings. A missing or unusable value gives way to its
default, with a warning. A scheme that is no text is taken item by item, as long as the items
are texts without a brace to interpret.
-/

namespace MediaNaming.Settings

/-- Whether a text is a part of the text of both braces. -/
def isBraces (s : String) : Bool :=
  Text.occursIn s.toList ['\x7b', '\x7d']

/-- The text of an item of a scheme that is no text. -/
def itemText (v : Value) (index : Nat) : Except Failure String := do
  match ← Tag.item v index with
  | .text s => if isBraces s then .error (.noContinuation v.kindName) else return s
  | w => .error (.notText w.fullKindName)

/-- Reads a scheme from any value. -/
def readScheme : Value → Except Failure Scheme
  | .text s => .ok (Scheme.parse s)
  | v =>
    match v.size? with
    | none => .error (.noLength v.fullKindName)
    | some n => do
      let parts ← (List.range n).mapM (itemText v)
      return if parts.isEmpty then [] else [.literal (Text.joined "" parts)]

/-- The configured scheme. One without tokens gives way to the default. -/
def schemeTokens (s : Settings) : Log.Traced Scheme := do
  let tokens ← .ofExcept (if s.scheme.isTruthy then readScheme s.scheme else .ok [])
  if tokens.isEmpty then
    let shown ← .ofExcept s.scheme.shownWording
    ⟨.ok (Scheme.parse defaultScheme),
      [.plain .warning ("Configured naming scheme " ++ shown ++ " is empty; using " ++
        Text.quoted defaultScheme)]⟩
  else .ok tokens

/-- The configured substitute. One that is not valid gives way to the default, unless the
warning about it cannot be written. -/
def substituteCharacter (s : Settings) : Log.Traced Substitute :=
  match Substitute.ofValue s.substitute with
  | .ok sub => .ok sub
  | .error _ => do
    let shown ← .ofExcept s.substitute.shownWording
    ⟨.ok .default,
      [.plain .warning ("Invalid substitution character " ++ shown ++
        " in configuration; using " ++ Text.quoted defaultSubstitute)]⟩

end MediaNaming.Settings
