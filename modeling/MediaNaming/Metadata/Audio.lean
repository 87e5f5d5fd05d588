import MediaNaming.Metadata.Media
import MediaNaming.Metadata.Tag
import MediaNaming.Text.LetterCase
/-!
# Music tracks from tags

Every audio format names its tags in its own way. `Track.ofTags` reads a track from the tags of
an opened file; a number or a date that cannot be read costs its own fields only.
-/

namespace MediaNaming

/-- The tag of each field. An empty name stands for no tag. -/
structure TagNames where
  title : String
  artist : String
  albumArtist : String
  album : String
  genre : String
  track : String
  disc : String
  date : String

namespace TagNames

/-- No tags at all. -/
def none : TagNames :=
  ⟨"", "", "", "", "", "", "", ""⟩

/-- Comments that are written out in words. -/
def comments : TagNames :=
  ⟨"title", "artist", "albumartist", "album", "genre", "tracknumber", "discnumber", "date"⟩

/-- Frames with names of four letters. -/
def frames : TagNames :=
  ⟨"TIT2", "TPE1", "TPE2", "TALB", "TCON", "TRCK", "TPOS", "TDRC"⟩

/-- Atoms; many names start with a copyright sign. -/
def atoms : TagNames :=
  ⟨"©nam", "©ART", "aART", "©alb", "©gen", "trkn", "disk", "©day"⟩

/-- Attributes of streams. -/
def attributes : TagNames :=
  ⟨"Title", "Author", "WM/AlbumArtist", "WM/AlbumTitle", "WM/Genre", "WM/TrackNumber",
    "WM/PartOfSet", "WM/Year"⟩

end TagNames

/-- How a format keeps its tags. -/
structure TagLayout where
  names : TagNames
  /-- Whether the numbers of track and disc are pairs instead of texts. -/
  pairedNumbers : Bool

namespace TagLayout

/-- The text of a tag; a tag without name is not looked up. -/
def tagText (tags : Metadata) (name : String) : Except Failure (Option String) :=
  if name = "" then .ok none else Tag.firstText (tags.value name)

/-- The text of a number. -/
def numberText (layout : TagLayout) (tags : Metadata) (name : String) :
    Except Failure (Option String) :=
  if layout.pairedNumbers then Tag.pairAsSlash (tags.value name) else tagText tags name

/-- A number and a total. -/
def numbers (layout : TagLayout) (tags : Metadata) (name : String) :
    Except Failure (Option Nat × Option Nat) := do
  Tag.slashNumbers ((← layout.numberText tags name).getD "")

end TagLayout

/-- The suffix of a path in lower case. -/
def Path.lowerSuffix (p : Path) : String :=
  Text.lower p.suffix

/-- Reads a track from the tags of the file at a path. -/
def Track.ofTags (layout : TagLayout) (tags : Metadata) (p : Path) : Except Failure Track := do
  let track ← layout.numbers tags layout.names.track
  let disc ← layout.numbers tags layout.names.disc
  let date ← TagLayout.tagText tags layout.names.date
  let title ← TagLayout.tagText tags layout.names.title
  let artist ← TagLayout.tagText tags layout.names.artist
  let albumArtist ← TagLayout.tagText tags layout.names.albumArtist
  let album ← TagLayout.tagText tags layout.names.album
  let genre ← TagLayout.tagText tags layout.names.genre
  let year ← Tag.year (date.getD "")
  return {
    title := Value.ofText? title
    artist := Value.ofText? artist
    album := Value.ofText? album
    albumArtist := Value.ofText? albumArtist
    genre := Value.ofText? genre
    date := Value.ofText? date
    year := Value.ofNat? year
    trackNumber := Value.ofNat? track.1
    trackTotal := Value.ofNat? track.2
    discNumber := Value.ofNat? disc.1
    discTotal := Value.ofNat? disc.2
    fileExtension := .text p.lowerSuffix }

end MediaNaming
