import MediaNaming.Failure
import MediaNaming.Metadata.Record
/-!
# Opened media files

What the format libraries find in a file: tags by name, and the size and directories of a
picture. It depends on the octets of the file alone, so a file that is renamed or linked keeps
it. How octets are read is left to a `MediaReader`.
-/

namespace MediaNaming

/-- What a picture tells about itself. -/
structure Picture where
  width : Value
  height : Value
  /-- The main directory. -/
  main : Metadata
  /-- The directory of the photographic details. -/
  details : Metadata

/-- What is found in a file. -/
structure Media where
  tags : Metadata
  picture : Picture
  /-- Why the file cannot be opened, if it cannot. -/
  refusal : Option Failure

/-- A file without tags, with the smallest picture. -/
def Media.blank : Media :=
  ⟨[], ⟨.int 1, .int 1, [], []⟩, none⟩

/-- Finds what is in the octets of a file. -/
abbrev MediaReader := List UInt8 → Media

/-- The value of a name; null if there is none. -/
def Metadata.value (m : Metadata) (name : String) : Value :=
  (m.lookup name).getD .null

end MediaNaming
