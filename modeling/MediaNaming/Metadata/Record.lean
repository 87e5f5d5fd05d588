import MediaNaming.Value.Basic
/-!
# Metadata records

A music track and an image each have a fixed list of fields. Planning sees a record as a mapping
from field names to values, without the fields that are not set or are the empty text.
-/

namespace MediaNaming

/-- Metadata by name. -/
abbrev Metadata := List (String × Value)

/-- Metadata of a music track. -/
structure Track where
  title : Value := .null
  artist : Value := .null
  album : Value := .null
  albumArtist : Value := .null
  genre : Value := .null
  date : Value := .null
  year : Value := .null
  trackNumber : Value := .null
  trackTotal : Value := .null
  discNumber : Value := .null
  discTotal : Value := .null
  fileExtension : Value := .null

/-- Metadata of a still image. -/
structure Image where
  dateTime : Value := .null
  dateTimeOriginal : Value := .null
  dateTimeDigitized : Value := .null
  make : Value := .null
  model : Value := .null
  software : Value := .null
  artist : Value := .null
  copyright : Value := .null
  imageDescription : Value := .null
  width : Value := .null
  height : Value := .null
  fileExtension : Value := .null

/-- The fields of a track by name, in order. -/
def Track.fields (t : Track) : Metadata :=
  [("title", t.title), ("artist", t.artist), ("album", t.album), ("album_artist", t.albumArtist),
    ("genre", t.genre), ("date", t.date), ("year", t.year), ("track_number", t.trackNumber),
    ("track_total", t.trackTotal), ("disc_number", t.discNumber), ("disc_total", t.discTotal),
    ("file_extension", t.fileExtension)]

/-- The fields of an image by name, in order. -/
def Image.fields (i : Image) : Metadata :=
  [("date_time", i.dateTime), ("date_time_original", i.dateTimeOriginal),
    ("date_time_digitized", i.dateTimeDigitized), ("make", i.make), ("model", i.model),
    ("software", i.software), ("artist", i.artist), ("copyright", i.copyright),
    ("image_description", i.imageDescription), ("width", i.width), ("height", i.height),
    ("file_extension", i.fileExtension)]

/-- A track from values by name. -/
def Track.ofNames (value : String → Value) : Track where
  title := value "title"
  artist := value "artist"
  album := value "album"
  albumArtist := value "album_artist"
  genre := value "genre"
  date := value "date"
  year := value "year"
  trackNumber := value "track_number"
  trackTotal := value "track_total"
  discNumber := value "disc_number"
  discTotal := value "disc_total"
  fileExtension := value "file_extension"

/-- An image from values by name. -/
def Image.ofNames (value : String → Value) : Image where
  dateTime := value "date_time"
  dateTimeOriginal := value "date_time_original"
  dateTimeDigitized := value "date_time_digitized"
  make := value "make"
  model := value "model"
  software := value "software"
  artist := value "artist"
  copyright := value "copyright"
  imageDescription := value "image_description"
  width := value "width"
  height := value "height"
  fileExtension := value "file_extension"

/-- The metadata of one file. -/
inductive MetadataRecord where
  | track (t : Track)
  | image (i : Image)

namespace MetadataRecord

/-- Every field by name, in order. -/
def fields : MetadataRecord → Metadata
  | track t => t.fields
  | image i => i.fields

/-- Whether a field holds something. -/
def isSet : Value → Bool
  | .null => false
  | v => !v.isEmptyText

/-- The fields that hold something. -/
def mapping (r : MetadataRecord) : Metadata :=
  r.fields.filter fun f => isSet f.2

end MetadataRecord

/-- A text or nothing as a value. -/
def Value.ofText? : Option String → Value
  | some s => .text s
  | none => .null

/-- A number or nothing as a value. -/
def Value.ofNat? : Option Nat → Value
  | some n => .int n
  | none => .null

end MediaNaming
