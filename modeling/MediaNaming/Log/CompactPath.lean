import MediaNaming.Log.Styled
import MediaNaming.Path
/-!
# Paths in short

A path in a message shows its last three names. A text with a backslash is read by the rules of
drives and shares, any other by the rules of `Path`.
-/

namespace MediaNaming.Log

/-- A path as it is shown: its anchor, its names and what stands between them. -/
structure PathView where
  anchor : List Char
  names : List (List Char)
  separator : Char
  deriving DecidableEq, Repr

namespace PathView

/-- A share, as `\\server\share`, and the text behind it. The text has to start with exactly two
backslashes. -/
def share? : List Char → Option (List Char × List Char)
  | '\\' :: '\\' :: body =>
    if body.head? = some '\\' then none
    else
      match body.dropWhile (· ≠ '\\') with
      | [] => none
      | _ :: tail =>
        if tail.head? = some '\\' then none
        else
          some ('\\' :: '\\' :: body.takeWhile (· ≠ '\\') ++ '\\' :: tail.takeWhile (· ≠ '\\'),
            (tail.dropWhile (· ≠ '\\')).tail)
  | _ => none

/-- The marker of an extended path, and the text behind it; a share behind the marker gets back
its two backslashes. -/
def extended : List Char → List Char × List Char
  | '\\' :: '\\' :: '?' :: '\\' :: 'U' :: 'N' :: 'C' :: '\\' :: rest =>
    (['\\', '\\', '?', '\\', 'U', 'N', 'C'], '\\' :: '\\' :: rest)
  | '\\' :: '\\' :: '?' :: '\\' :: rest => (['\\', '\\', '?', '\\'], rest)
  | cs => ([], cs)

/-- A letter with a colon, and the text behind it. -/
def drive : List Char → List Char × List Char
  | c :: ':' :: rest => if c.isAlpha then ([c, ':'], rest) else ([], c :: ':' :: rest)
  | cs => ([], cs)

/-- The anchor of a path with drives, and the text behind it. -/
def driveAnchor (cs : List Char) : List Char × List Char :=
  let (marker, body) := extended cs
  match share? body with
  | some (share, rest) => (marker ++ (if marker.isEmpty then share else share.tail) ++ ['\\'], rest)
  | none =>
    let (letter, rest) := drive body
    if rest.head? = some '\\' then (marker ++ letter ++ ['\\'], rest.dropWhile (· = '\\'))
    else (marker ++ letter, rest)

/-- Reads a path with drives. A name that looks like the anchor is left out. -/
def ofDriveText (cs : List Char) : PathView :=
  let (anchor, rest) := driveAnchor (cs.map fun c => if c = '/' then '\\' else c)
  ⟨anchor,
    (Text.splitOn '\\' rest).filter fun name => !name.isEmpty && name ≠ ['.'] && name ≠ anchor,
    '\\'⟩

/-- Reads a path. -/
def ofText (s : String) : PathView :=
  if s.toList.contains '\\' then ofDriveText s.toList
  else
    let p := Path.ofText s
    ⟨p.anchor.text.toList, p.parts.map String.toList, '/'⟩

/-- The number of names that are shown. -/
def nameLimit : Nat := 3

/-- The look of anchors and separators. -/
def separatorStyle : Style := ⟨.magenta, false⟩

/-- The look of names. -/
def nameStyle : Style := ⟨.white, false⟩

/-- Shows names with separators between them. -/
def showNames (separator : Char) (t : Styled) : List (List Char) → Styled
  | [] => t
  | [name] => t.appendIn nameStyle (String.ofList name)
  | name :: rest =>
    showNames separator
      ((t.appendIn nameStyle (String.ofList name)).appendIn separatorStyle
        (String.singleton separator))
      rest

/-- Shows a path. Names that are left out in front give an ellipsis in the place of the
anchor. -/
def compact (v : PathView) : Styled :=
  let front :=
    if nameLimit < v.names.length then String.ofList ['…', v.separator]
    else String.ofList v.anchor
  showNames v.separator (Styled.empty.appendIn separatorStyle front)
    (v.names.drop (v.names.length - nameLimit))

end PathView

/-- A path in short. -/
def compactPath (s : String) : Styled :=
  (PathView.ofText s).compact

end MediaNaming.Log
