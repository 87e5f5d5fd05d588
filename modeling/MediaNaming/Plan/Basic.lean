import MediaNaming.Failure
import MediaNaming.Value.Basic
/-!
# Plans

A plan maps the paths of files, as they were given, to new names. What is left out of a plan, or
not renamed in the end, has a reason.
-/

namespace MediaNaming

/-- Why a file or a renaming is left out. -/
inductive SkipReason where
  | fileNotValid
  | unsupportedType
  | extractionFailed
  | missingMetadata
  | emptyName
  | destinationExists
  | unchanged
  | renameError
  deriving DecidableEq, Repr

/-- The name of a reason. -/
def SkipReason.title : SkipReason → String
  | fileNotValid => "file_not_valid"
  | unsupportedType => "unsupported_type"
  | extractionFailed => "extraction_failed"
  | missingMetadata => "missing_metadata"
  | emptyName => "empty_name"
  | destinationExists => "destination_exists"
  | unchanged => "unchanged"
  | renameError => "rename_error"

/-- A file that is left out of a plan. -/
structure Skipped where
  path : Value
  reason : SkipReason
  detail : String
  /-- The key without metadata. -/
  token : Option String

/-- What planning finds for one path. -/
inductive Resolution where
  | named (path : Value) (name : String)
  | skipped (s : Skipped)

namespace Resolution

/-- The files left out. -/
def skips (rs : List Resolution) : List Skipped :=
  rs.filterMap fun
    | named _ _ => none
    | skipped s => some s

/-- The paths that have a name, with their names. -/
def names (rs : List Resolution) : List (Value × String) :=
  rs.filterMap fun
    | named path name => some (path, name)
    | skipped _ => none

/-- The entries of a plan; of two names for one path, the later one counts. -/
def entries (rs : List Resolution) : Entries :=
  Entries.ofPairs ((names rs).map fun e => (e.1, .text e.2))

end Resolution

/-- New names by path. -/
structure Plan where
  entries : Entries
  /-- Whether the plan is protected from changes. -/
  isSealed : Bool

namespace Plan

/-- Gives a path another name. -/
def assign (p : Plan) (path name : Value) : Except Failure Plan :=
  if p.isSealed then .error .sealedPlan
  else .ok { p with entries := p.entries.insert path name }

/-- A copy that can be changed, with further names. -/
def edit (p : Plan) (pairs : List (Value × Value)) : Plan :=
  ⟨pairs.foldl (fun entries e => entries.insert e.1 e.2) p.entries, false⟩

end Plan

/-- The path that a value names, if it is a path or a text that is not empty. -/
def Value.filePath? : Value → Option Path
  | .text s => if s = "" then none else some (Path.ofText s)
  | .path p => some p
  | _ => none

end MediaNaming
