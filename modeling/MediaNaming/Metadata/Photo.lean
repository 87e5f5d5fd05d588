import MediaNaming.Metadata.Audio
import MediaNaming.Metadata.Stamp
/-!
# Images from their directories

A picture has three stamps: when it was taken, when it was digitized and when the file was
changed. Each has an offset of its own, for which the offset of the last one stands in; and a
picture that was never changed counts as changed when it was taken.
-/

namespace MediaNaming

namespace Picture

/-- The text of an entry of the main directory. -/
def mainText (p : Picture) (name : String) : Except Failure (Option String) :=
  Tag.firstText (p.main.value name)

/-- The text of an entry among the photographic details. -/
def detailText (p : Picture) (name : String) : Except Failure (Option String) :=
  Tag.firstText (p.details.value name)

end Picture

/-- Reads the metadata of a picture in the file at a path. -/
def Image.ofPicture (picture : Picture) (p : Path) : Except Failure Image := do
  let offset ← picture.detailText "OffsetTime"
  let originalOffset ← picture.detailText "OffsetTimeOriginal"
  let digitizedOffset ← picture.detailText "OffsetTimeDigitized"
  let original ← picture.detailText "DateTimeOriginal"
  let changed ← picture.mainText "DateTime"
  let digitized ← picture.detailText "DateTimeDigitized"
  let make ← picture.mainText "Make"
  let model ← picture.mainText "Model"
  let software ← picture.mainText "Software"
  let artist ← picture.mainText "Artist"
  let copyright ← picture.mainText "Copyright"
  let description ← picture.mainText "ImageDescription"
  let taken := Stamp.format original (originalOffset.or offset)
  return {
    dateTime := Value.ofText? ((Stamp.format changed offset).or taken)
    dateTimeOriginal := Value.ofText? taken
    dateTimeDigitized := Value.ofText? (Stamp.format digitized (digitizedOffset.or offset))
    make := Value.ofText? make
    model := Value.ofText? model
    software := Value.ofText? software
    artist := Value.ofText? artist
    copyright := Value.ofText? copyright
    imageDescription := Value.ofText? description
    width := picture.width
    height := picture.height
    fileExtension := .text p.lowerSuffix }

end MediaNaming
