import MediaNaming.Scheme.Basic
import MediaNaming.Text.Blank
/-!
# Schemes as text

In text, a name in braces is a key and all else is literal; a doubled brace is a brace. A brace
that opens no key is literal as well, so every text is a scheme. `Scheme.format` writes a
scheme, and `Scheme.merge` is the form in which schemes are read: no empty literals, and no two
in a row.
-/

namespace MediaNaming.Scheme

/-- The literal that ends with the characters read so far (the last one first), in front of more
tokens. -/
def flush (buffer : List Char) (tokens : Scheme) : Scheme :=
  if buffer.isEmpty then tokens else .literal (String.ofList buffer.reverse) :: tokens

/-- The key behind an opening brace, with the text after its closing brace. -/
def keyAt? (cs : List Char) : Option (String × List Char) :=
  match cs.dropWhile (· ≠ '}') with
  | [] => none
  | _ :: rest =>
    let name := Text.trim Text.isBlank (cs.takeWhile (· ≠ '}'))
    if name.isEmpty || name.contains '{' then none else some (String.ofList name, rest)

theorem keyAt?_rest_length {cs rest : List Char} {name : String}
    (found : keyAt? cs = some (name, rest)) : rest.length < cs.length := by
  unfold keyAt? at found
  split at found
  · simp at found
  · next c tail dropped =>
    dsimp only at found
    split at found
    · simp at found
    · simp only [Option.some.injEq, Prod.mk.injEq] at found
      have shorter : (cs.dropWhile (· ≠ '}')).length ≤ cs.length :=
        (List.dropWhile_sublist _).length_le
      rw [dropped] at shorter
      simp only [List.length_cons] at shorter
      rw [← found.2]
      omega

/-- Reads a text, with the characters of an unfinished literal in `buffer`. -/
def parseFrom (buffer : List Char) : List Char → Scheme
  | [] => flush buffer []
  | '{' :: '{' :: rest => parseFrom ('{' :: buffer) rest
  | '}' :: '}' :: rest => parseFrom ('}' :: buffer) rest
  | c :: rest =>
    if c = '{' then
      match _found : keyAt? rest with
      | some (name, rest') => flush buffer (.key name :: parseFrom [] rest')
      | none => parseFrom (c :: buffer) rest
    else parseFrom (c :: buffer) rest
termination_by cs => cs.length
decreasing_by
  · simp only [List.length_cons]; omega
  · simp only [List.length_cons]; omega
  · have := keyAt?_rest_length (by assumption)
    simp only [List.length_cons]; omega
  · simp only [List.length_cons]; omega
  · simp only [List.length_cons]; omega

/-- Reads a scheme from text. -/
def parse (text : String) : Scheme :=
  parseFrom [] text.toList

/-- Doubles the braces of a literal. -/
def escape (cs : List Char) : List Char :=
  cs.flatMap fun c => if c = '{' || c = '}' then [c, c] else [c]

/-- The characters of a token. -/
def formatToken : Token → List Char
  | .literal s => escape s.toList
  | .key s => '{' :: s.toList ++ ['}']

/-- Writes a scheme as text. -/
def format (s : Scheme) : String :=
  String.ofList (s.flatMap formatToken)

/-- Puts a token in front of merged ones. -/
def mergeOnto : Token → Scheme → Scheme
  | .literal s, tokens =>
    if s = "" then tokens
    else match tokens with
      | .literal t :: rest => .literal (s ++ t) :: rest
      | _ => .literal s :: tokens
  | .key s, tokens => .key s :: tokens

/-- Joins neighbouring literals and drops empty ones. -/
def merge (s : Scheme) : Scheme :=
  s.foldr mergeOnto []

/-- Whether a name can stand between braces: not empty, without braces, and without white space
at its ends. -/
def isKeyName (s : String) : Bool :=
  s ≠ "" && !s.toList.contains '{' && !s.toList.contains '}' && Text.strip s = s

/-- Whether the keys of a scheme have names that can stand between braces. -/
def isWellFormed (s : Scheme) : Bool :=
  s.all fun
    | .literal _ => true
    | .key name => isKeyName name

end MediaNaming.Scheme
