import MediaNaming.Metadata.Extractor
/-!
# Routing by suffix

A registry assigns extractors to extensions. Extensions are registered in any letter case and
with or without the dot in front; a file is routed by its suffix in lower case.
-/

namespace MediaNaming

/-- Extractors by extension, each extension once. -/
abbrev Registry := List (String × Extractor)

namespace Registry

/-- The form of an extension in which it is registered. -/
def normalize (extension : String) : String :=
  match (Text.lower (Text.strip extension)).toList with
  | [] => ""
  | '.' :: rest => String.ofList ('.' :: rest)
  | cs => String.ofList ('.' :: cs)

/-- Gives an extension an extractor; an earlier one gives way. -/
def put (r : Registry) (extension : String) (e : Extractor) : Registry :=
  if r.any (·.1 = extension) then
    r.map fun entry => if entry.1 = extension then (extension, e) else entry
  else r ++ [(extension, e)]

/-- Registers an extractor for an extension. -/
def register (r : Registry) (extension : String) (e : Extractor) : Except Failure Registry :=
  if normalize extension = "" then .error .emptyExtension
  else .ok (r.put (normalize extension) e)

/-- A registry from assignments, each registered in turn. -/
def ofAssignments (assignments : List (String × Extractor)) : Except Failure Registry :=
  assignments.foldlM (fun r a => r.register a.1 a.2) []

/-- The formats that are known from the start. -/
def default : Registry :=
  [(".jpg", .jpeg), (".jpeg", .jpeg), (".tif", .tiff), (".tiff", .tiff), (".mp3", .mp3),
    (".wav", .wave), (".flac", .flac), (".aiff", .aiff), (".ogg", .oggVorbis), (".m4a", .m4a),
    (".asf", .asf)]

/-- The extensions that are registered, or those of one capability. -/
def extensions (r : Registry) (capability : Option String) : List String :=
  (r.filter fun entry =>
    match capability with
    | some c => entry.2.capability = c
    | none => true).map (·.1)

/-- The extractor for the file at a path. -/
def extractorFor (r : Registry) (p : Path) : Except Failure Extractor :=
  match r.lookup p.lowerSuffix with
  | some e => .ok e
  | none => .error (.unsupportedType p.lowerSuffix)

/-- The metadata of the file at a path. -/
def lookupMetadata (r : Registry) (reader : MediaReader) (v : Volume) (cwd p : Path) :
    Log.Traced Metadata :=
  match r.extractorFor p with
  | .error f => .fail f
  | .ok e => do return (← e.extract reader v cwd p).mapping

end Registry

end MediaNaming
