import MediaNaming.Log.Record
import MediaNaming.Metadata.Photo
import MediaNaming.Volume.Query
/-!
# Extractors

An extractor reads the metadata record of a file. There is one for each audio format, and they
differ only in their tags; images of all formats are read alike.
-/

namespace MediaNaming

/-- Reads metadata from files of one format. -/
structure Extractor where
  /-- The name of the format. -/
  name : String
  /-- What the files of the format are good for. -/
  capability : String
  /-- Reads the file that a path names from a working directory. -/
  extract : MediaReader → Volume → Path → Path → Log.Traced MetadataRecord

namespace Extractor

/-- The metadata of the image in a file, if the file can be opened. -/
def imageOf (reader : MediaReader) (v : Volume) (cwd p : Path) :
    Except Failure MetadataRecord := do
  let media := reader (← v.read? cwd p)
  match media.refusal with
  | some f => .error f
  | none => return .image (← Image.ofPicture media.picture p)

/-- Reads images. -/
def image (name : String) : Extractor where
  name := name
  capability := "image"
  extract reader v cwd p := .ofExcept (imageOf reader v cwd p)

/-- The report on tags that cannot be read. -/
def tagReport (name : String) (p : Path) (text : String) : Log.Record :=
  .plain .error ("Failed to read " ++ name ++ " tags from " ++ p.text ++ ": " ++ text)

/-- Tags cannot be read: the failure that reaches the caller says so, unless the file is not
there. -/
def tagFailure (text : String) : Failure :=
  if Text.occursIn "No such file".toList text.toList then .tagFileMissing text
  else .tagReading text

/-- Opens an audio file. The refusals of the operating system, and those of the tag format, are
reported. -/
def openAudio (name : String) (reader : MediaReader) (v : Volume) (cwd p : Path) :
    Log.Traced Metadata :=
  match v.read? cwd p with
  | .error f =>
    if f.kind.isSystem then ⟨.error (tagFailure f.message), [tagReport name p f.message]⟩
    else .fail f
  | .ok bs =>
    match (reader bs).refusal with
    | some f =>
      if f.kind = .tagReading then
        match f.instead? with
        | some g => .fail g
        | none => ⟨.error (tagFailure f.message), [tagReport name p f.message]⟩
      else .fail f
    | none => .ok (reader bs).tags

/-- Reads music tracks of one format. -/
def audio (name : String) (layout : TagLayout) : Extractor where
  name := name
  capability := "audio"
  extract reader v cwd p := do
    let tags ← openAudio name reader v cwd p
    return .track (← .ofExcept (Track.ofTags layout tags p))

/-- An audio format that does not say how its files are opened. -/
def audioWithoutOpener (name : String) : Extractor where
  name := name
  capability := "audio"
  extract _ _ _ _ := .fail .noOpener

/-- A format whose files are not read at all. -/
def unread (name capability : String) : Extractor where
  name := name
  capability := capability
  extract _ _ _ _ := .fail .notImplemented

/-- Photos with the suffix of JPEG. -/
def jpeg : Extractor := image "Jpeg"

/-- Photos with the suffix of TIFF. -/
def tiff : Extractor := image "Tiff"

/-- Tracks of MP3, with their frames seen as comments. -/
def mp3 : Extractor := audio "Mp3" ⟨.comments, false⟩

/-- Tracks of WAV. -/
def wave : Extractor := audio "Wave" ⟨.frames, false⟩

/-- Tracks of FLAC. -/
def flac : Extractor := audio "Flac" ⟨.comments, false⟩

/-- Tracks of AIFF. -/
def aiff : Extractor := audio "Aiff" ⟨.frames, false⟩

/-- Tracks of Ogg Vorbis. -/
def oggVorbis : Extractor := audio "OggVorbis" ⟨.comments, false⟩

/-- Tracks of MPEG-4; the numbers of track and disc are pairs. -/
def m4a : Extractor := audio "M4a" ⟨.atoms, true⟩

/-- Tracks of the Advanced Systems Format. -/
def asf : Extractor := audio "Asf" ⟨.attributes, false⟩

end Extractor

end MediaNaming
