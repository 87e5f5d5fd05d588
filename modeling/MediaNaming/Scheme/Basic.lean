import MediaNaming.Value.Basic
/-!
# Naming schemes

A scheme is a sequence of tokens: literal text, and keys that stand for metadata of the file.
`Scheme.compile` makes one from whatever a caller hands in.
-/

namespace MediaNaming

/-- One token of a naming scheme. -/
inductive Token where
  /-- Text that is copied. -/
  | literal (text : String)
  /-- The name of a metadata field. -/
  | key (name : String)
  deriving DecidableEq, Repr

/-- A naming scheme. -/
abbrev Scheme := List Token

namespace Scheme

/-- The items of a value that can be gone through, unless doing so fails; a mapping gives its
keys, texts and octets give none. -/
def items? : Value → Option (Except Failure (List Value))
  | .list items => some (.ok items)
  | .tuple items => some (.ok items)
  | .stream items none => some (.ok items)
  | .stream _ (some f) => some (.error f)
  | .mapping entries => some (.ok (entries.map (·.1)))
  | _ => none

/-- The token that an entry stands for: a text, a literal with text, or a key with a name. -/
def tokenOf? : Value → Option Token
  | .text s => some (.literal s)
  | .literal (.text s) => some (.literal s)
  | .key (.text s) => if s = "" then none else some (.key s)
  | _ => none

/-- Keeps the entries that stand for tokens, in order. What is no sequence gives the empty
scheme; a sequence that fails on the way gives none. -/
def compile (raw : Value) : Except Failure Scheme :=
  ((items? raw).getD (.ok [])).map (·.filterMap tokenOf?)

/-- A token as a value. -/
def tokenValue : Token → Value
  | .literal s => .literal (.text s)
  | .key s => .key (.text s)

/-- A scheme as a value. -/
def toValue (s : Scheme) : Value :=
  .tuple (s.map tokenValue)

end Scheme

end MediaNaming
