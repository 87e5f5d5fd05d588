import MediaNaming.Text.Blank
/-!
# Lexemes of TOML

Blanks, comments, strings and keys. A reader takes the characters of a document and gives what
it read with the characters that are left. Documents have line feeds only: pairs of carriage
return and line feed have been replaced before.
-/

namespace MediaNaming.Toml

/-- Why a document is not read. -/
inductive Flaw where
  /-- The text is not a document of this format. -/
  | malformed
  /-- A whole number with too many digits. -/
  | longNumber (digits : Nat)
  deriving DecidableEq, Repr

/-- What a reader gives: the thing read, and the text behind it. -/
abbrev Result (α : Type) := Except Flaw (α × List Char)

/-- Blanks inside a line. -/
def isGap (c : Char) : Bool :=
  c = ' ' || c = '\t'

/-- Blanks and line feeds. -/
def isGapOrLine (c : Char) : Bool :=
  isGap c || c = '\n'

/-- Control characters, which stand nowhere; a tab is none of them. -/
def isForbidden (c : Char) : Bool :=
  (c.toNat < 32 && c ≠ '\t') || c.toNat = 127

/-- Drops blanks inside a line. -/
def skipGap (cs : List Char) : List Char :=
  cs.dropWhile isGap

/-- Drops a comment, up to the end of its line. -/
def skipComment : List Char → Except Flaw (List Char)
  | '#' :: rest =>
    if (rest.takeWhile (· ≠ '\n')).any isForbidden then .error .malformed
    else .ok (rest.dropWhile (· ≠ '\n'))
  | cs => .ok cs

/-- Drops blanks, line feeds and comments. -/
def skipLines (fuel : Nat) (cs : List Char) : Except Flaw (List Char) :=
  match fuel with
  | 0 => .ok cs
  | k + 1 =>
    match cs.dropWhile isGapOrLine with
    | '#' :: rest =>
      match skipComment ('#' :: rest) with
      | .error f => .error f
      | .ok rest => skipLines k rest
    | rest => .ok rest

/-- Drops blanks, line feeds and comments between the items of an array. -/
def skipFiller (cs : List Char) : Except Flaw (List Char) :=
  skipLines (cs.length + 1) cs

/-- The value of a hexadecimal digit. -/
def hexValue? (c : Char) : Option Nat :=
  if '0' ≤ c && c ≤ '9' then some (c.toNat - 48)
  else if 'a' ≤ c && c ≤ 'f' then some (c.toNat - 87)
  else if 'A' ≤ c && c ≤ 'F' then some (c.toNat - 55)
  else none

/-- The number that hexadecimal digits write, if they all are. -/
def hexNumber? (cs : List Char) : Option Nat :=
  cs.foldlM (fun n c => (hexValue? c).map (n * 16 + ·)) 0

/-- The character of a code point, if there is one. -/
def scalar? (n : Nat) : Option Char :=
  if n.isValidChar then some (Char.ofNat n) else none

/-- The character that an escape stands for; the backslash has been read. -/
def escaped? : List Char → Option (Char × List Char)
  | 'b' :: rest => some (Char.ofNat 8, rest)
  | 't' :: rest => some ('\t', rest)
  | 'n' :: rest => some ('\n', rest)
  | 'f' :: rest => some (Char.ofNat 12, rest)
  | 'r' :: rest => some ('\r', rest)
  | '"' :: rest => some ('"', rest)
  | '\\' :: rest => some ('\\', rest)
  | 'u' :: rest =>
    if rest.length < 4 then none
    else ((hexNumber? (rest.take 4)).bind scalar?).map fun c => (c, rest.drop 4)
  | 'U' :: rest =>
    if rest.length < 8 then none
    else ((hexNumber? (rest.take 8)).bind scalar?).map fun c => (c, rest.drop 8)
  | _ => none

theorem escaped?_length {cs rest : List Char} {c : Char} (found : escaped? cs = some (c, rest)) :
    rest.length < cs.length := by
  unfold escaped? at found
  split at found
  all_goals first
    | (simp only [Option.some.injEq, Prod.mk.injEq] at found
       rw [← found.2]
       simp)
    | skip
  · split at found
    · simp at found
    · simp only [Option.map_eq_some_iff, Prod.mk.injEq] at found
      obtain ⟨_, _, _, same⟩ := found
      rw [← same]
      simp only [List.length_drop, List.length_cons]
      omega
  · split at found
    · simp at found
    · simp only [Option.map_eq_some_iff, Prod.mk.injEq] at found
      obtain ⟨_, _, _, same⟩ := found
      rw [← same]
      simp only [List.length_drop, List.length_cons]
      omega
  · simp at found

/-- The text behind a backslash that ends a line: blank lines and the blanks of the next line
are passed over. -/
def continued? (cs : List Char) : Option (List Char) :=
  match skipGap cs with
  | '\n' :: rest => some (rest.dropWhile isGapOrLine)
  | _ => none

theorem continued?_length {cs rest : List Char} (found : continued? cs = some rest) :
    rest.length < cs.length := by
  unfold continued? at found
  split at found
  · next tail dropped =>
    have shorter : (skipGap cs).length ≤ cs.length := (List.dropWhile_sublist _).length_le
    have inner : (tail.dropWhile isGapOrLine).length ≤ tail.length :=
      (List.dropWhile_sublist _).length_le
    simp only [Option.some.injEq] at found
    rw [dropped] at shorter
    simp only [List.length_cons] at shorter
    rw [← found]
    omega
  · simp at found

/-- Puts a character in front of a string that is being read. -/
def Result.push (c : Char) (r : Result (List Char)) : Result (List Char) :=
  r.map fun p => (c :: p.1, p.2)

/-- Reads a string behind its opening quotes; `lines` tells whether it may go over several
lines, and so ends with three quotes. -/
def basicChars (lines : Bool) (cs : List Char) : Result (List Char) :=
  match cs with
  | [] => .error .malformed
  | c :: rest =>
    if c = '"' then
      if !lines then .ok ([], rest)
      else if rest.take 2 = ['"', '"'] then .ok ([], rest.drop 2)
      else (basicChars lines rest).push c
    else if c = '\\' then
      match _line : if lines then continued? rest else none with
      | some more => basicChars lines more
      | none =>
        match _escape : escaped? rest with
        | some (d, more) => (basicChars lines more).push d
        | none => .error .malformed
    else if isForbidden c && !(lines && c = '\n') then .error .malformed
    else (basicChars lines rest).push c
termination_by cs.length
decreasing_by
  · simp
  · have : continued? rest = some more := by
      cases lines <;> simp_all
    have := continued?_length this
    simp only [List.length_cons]
    omega
  · have := escaped?_length (by assumption)
    simp only [List.length_cons]
    omega
  · simp

/-- Reads a string without escapes behind its opening quote. -/
def literalChars (cs : List Char) : Result (List Char) :=
  match cs.dropWhile (· ≠ '\'') with
  | [] => .error .malformed
  | _ :: rest =>
    let body := cs.takeWhile (· ≠ '\'')
    if body.any isForbidden then .error .malformed else .ok (body, rest)

/-- Reads a string without escapes that may go over several lines. -/
def literalLines : List Char → Result (List Char)
  | [] => .error .malformed
  | '\'' :: '\'' :: '\'' :: rest => .ok ([], rest)
  | c :: rest =>
    if isForbidden c && c ≠ '\n' then .error .malformed else (literalLines rest).push c

/-- Up to two quotes in front of the closing ones belong to the string. -/
def closingQuotes (quote : Char) (r : Result (List Char)) : Result (List Char) :=
  r.map fun (body, rest) =>
    match rest with
    | a :: b :: more =>
      if a = quote then
        if b = quote then (body ++ [quote, quote], more) else (body ++ [quote], b :: more)
      else (body, rest)
    | [a] => if a = quote then (body ++ [quote], []) else (body, rest)
    | [] => (body, rest)

/-- A line feed right behind the opening quotes does not count. -/
def dropFirstLine : List Char → List Char
  | '\n' :: rest => rest
  | cs => cs

/-- Reads a string of any kind; nothing if no string starts here. -/
def readString? : List Char → Option (Result (List Char))
  | '"' :: '"' :: '"' :: rest =>
    some (closingQuotes '"' (basicChars true (dropFirstLine rest)))
  | '"' :: rest => some (basicChars false rest)
  | '\'' :: '\'' :: '\'' :: rest =>
    some (closingQuotes '\'' (literalLines (dropFirstLine rest)))
  | '\'' :: rest => some (literalChars rest)
  | _ => none

/-- The characters of keys without quotes. -/
def isBare (c : Char) : Bool :=
  c.isAlphanum || c = '-' || c = '_'

/-- A dotted key. -/
abbrev Key := List String

/-- Reads one name of a key. -/
def readName : List Char → Result String
  | '"' :: rest => (basicChars false rest).map fun p => (String.ofList p.1, p.2)
  | '\'' :: rest => (literalChars rest).map fun p => (String.ofList p.1, p.2)
  | cs =>
    if (cs.takeWhile isBare).isEmpty then .error .malformed
    else .ok (String.ofList (cs.takeWhile isBare), cs.dropWhile isBare)

/-- Reads names with dots between them, and the blanks behind. -/
def readNames (fuel : Nat) (cs : List Char) : Result Key :=
  match fuel with
  | 0 => .error .malformed
  | k + 1 =>
    match readName cs with
    | .error f => .error f
    | .ok (name, rest) =>
      match skipGap rest with
      | '.' :: more => (readNames k (skipGap more)).map fun p => (name :: p.1, p.2)
      | rest => .ok ([name], rest)

/-- Reads a key. -/
def readKey (cs : List Char) : Result Key :=
  readNames (cs.length + 1) cs

end MediaNaming.Toml
