import MediaNaming.Metadata.Extractor
import MediaNaming.Proofs.Metadata.TagNumbers
import MediaNaming.Proofs.Metadata.TagText
import MediaNaming.Proofs.Rename.Turn
import MediaNaming.Proofs.Volume.Reachable
/-!
# One label in every format

A track can be labelled in each audio format: the same texts and numbers under other names and in
other wrappings, and in one format with the numbers as pairs. Whatever the format, the same record
is read from the file, since every wrapping is opened to the text inside and a pair is written out
as the text that the other formats hold. The one thing that can fail is the year, and it fails in
all formats alike.
-/

namespace MediaNaming

open Text (isBlank isDecimal isDigit isDigitText)

/-! ## Numbers in tags -/

namespace Tag

variable {cs : List Char} {d n t : Nat} {s : String} {f : Failure}

/-- A text with nothing to drop at its ends is kept whole. -/
theorem finish_eq_some (filled : cs ≠ []) (solid : ∀ c ∈ cs, isBlank c = false)
    (printed : ∀ c ∈ cs, c ≠ Char.ofNat 0) : finish cs = some (String.ofList cs) := by
  have bare : Text.Bare Text.isMargin cs := by
    apply Text.bare_of_none
    intro c member
    rw [Text.isMargin, solid c member, Text.isNull, decide_eq_false (printed c member)]
    rfl
  rw [finish_eq, kept_eq_self_iff.mpr bare, if_neg filled]

/-- A number with its total, as most formats write them. -/
def slashed (n t : Nat) : String :=
  Number.text n ++ "/" ++ Number.text t

theorem toList_slashed (n t : Nat) :
    (slashed n t).toList = Number.digits n ++ '/' :: Number.digits t := by
  simp [slashed, Number.text]

/-- A character that is no decimal digit and no slash is not written. -/
theorem isDecimal_of_mem_slashed {c : Char} (written : c ∈ (slashed n t).toList)
    (other : c ≠ '/') : isDecimal c = true := by
  rw [toList_slashed, List.mem_append, List.mem_cons] at written
  rcases written with number | slash | total
  · exact Number.isDecimal_of_mem_digits number
  · exact absurd slash other
  · exact Number.isDecimal_of_mem_digits total

theorem isBlank_of_mem_slashed (c : Char) (written : c ∈ (slashed n t).toList) :
    isBlank c = false := by
  by_cases slash : c = '/'
  · rw [slash]
    decide +kernel
  · exact Text.isBlank_of_isDigit
      (Text.isDigit_of_isDecimal (isDecimal_of_mem_slashed written slash))

theorem finish_slashed (n t : Nat) : finish (slashed n t).toList = some (slashed n t) := by
  have whole : finish (slashed n t).toList = some (String.ofList (slashed n t).toList) := by
    apply finish_eq_some
    · simp [toList_slashed]
    · exact isBlank_of_mem_slashed
    · rintro c written rfl
      have decimal := isDecimal_of_mem_slashed written (by decide)
      revert decimal
      decide
  rw [whole, String.ofList_toList]

theorem slash_not_mem_digits (n : Nat) : '/' ∉ Number.digits n := by
  intro written
  have decimal := Number.isDecimal_of_mem_digits written
  revert decimal
  decide

theorem number?_digits (fits : Number.Fits n) :
    number? (Number.digits n) = .ok (some n) := by
  have digit : ∀ c ∈ Number.digits n, isDigit c = true := fun c written =>
    Text.isDigit_of_isDecimal (Number.isDecimal_of_mem_digits written)
  have solid : Text.trim isBlank (Number.digits n) = Number.digits n :=
    Text.trim_of_none fun c written => Text.isBlank_of_isDigit (digit c written)
  have digits : isDigitText (Number.digits n) = true := by
    simpa [isDigitText, Number.digits_ne_nil] using digit
  rw [number?, solid, if_pos digits, Number.read_digits fits]

/-- The two numbers are found again. -/
theorem slashNumbers_slashed (first : Number.Fits n)
    (second : Number.Fits t) :
    slashNumbers (slashed n t) = .ok (some n, some t) := by
  have pieces : Text.splitOn '/' (slashed n t).toList = [Number.digits n, Number.digits t] := by
    rw [toList_slashed, Text.splitOn_append_cons (slash_not_mem_digits n),
      Text.splitOn_of_not_mem (slash_not_mem_digits t)]
  simp [slashNumbers, pieces, number?_digits first, number?_digits second]
  rfl

theorem pairNumber_int {pair : Value} {index : Nat} (there : item pair index = .ok (.int n))
    (positive : 0 < n) : pairNumber pair index = .ok (.int n) := by
  have nonzero : (Value.int n).isZero = false := by
    simp [Value.isZero, Value.number?, Value.sameNumber]
    omega
  simp only [pairNumber, there, bind, Except.bind, nonzero]
  rfl

theorem firstPair_cons {pair first second : Value} {rest : List Value}
    (number : pairNumber pair 0 = .ok first) (total : pairNumber pair 1 = .ok second) :
    firstPair (.list (pair :: rest)) = .ok (first, second) := by
  have filled : (Value.list (pair :: rest)).isTruthy = true := rfl
  have there : item (.list (pair :: rest)) 0 = .ok pair := rfl
  simp only [firstPair, filled, if_true, there, number, total, bind, Except.bind]
  rfl

theorem pairText_int (positive : 0 < n) (fits : Number.Fits n) :
    pairText (.int n) = .ok (Number.text n) := by
  have truthy : (Value.int n).isTruthy = true := by
    simp [Value.isTruthy]
    omega
  have written : (Value.int n).written? = some (Number.text n) := by
    simp only [Value.written?, Value.shown?, Number.signedText?_natCast fits]
  rw [pairText, if_pos truthy, Value.wording, written]
  rfl

/-- A pair of positive numbers is written as the other formats write it. -/
theorem pairAsSlash_pair (first : 0 < n ∧ Number.Fits n)
    (second : 0 < t ∧ Number.Fits t) :
    pairAsSlash (.list [.tuple [.int n, .int t]]) = .ok (some (slashed n t)) := by
  have number : pairNumber (.tuple [.int n, .int t]) 0 = .ok (.int n) :=
    pairNumber_int rfl first.1
  have total : pairNumber (.tuple [.int n, .int t]) 1 = .ok (.int t) :=
    pairNumber_int rfl second.1
  have filled : (Value.list [.tuple [.int n, .int t]]).isTruthy = true := rfl
  simp only [pairAsSlash, filled, if_true, firstPair_cons number total, bind, Except.bind,
    pairText_int first.1 first.2, pairText_int second.1 second.2]
  rfl

end Tag

/-! ## Labels -/

/-- What a track is labelled with. -/
structure TrackLabel where
  title : String
  artist : String
  albumArtist : String
  album : String
  genre : String
  date : String
  /-- The number of the track, and how many there are. -/
  track : Nat × Nat
  /-- The number of the disc, and how many there are. -/
  disc : Nat × Nat

namespace TrackLabel

/-- The numbers are positive and have no more digits than the limit allows. -/
def IsNumbered (label : TrackLabel) : Prop :=
  ∀ n ∈ [label.track.1, label.track.2, label.disc.1, label.disc.2],
    0 < n ∧ Number.Fits n

/-- The date without white space and null characters at its ends. -/
def cleanDate (label : TrackLabel) : String :=
  (Tag.finish label.date.toList).getD ""

/-- What a label says, without the extension of its file. -/
def read (label : TrackLabel) : Except Failure Track := do
  let year ← Tag.year label.cleanDate
  return {
    title := Value.ofText? (Tag.finish label.title.toList)
    artist := Value.ofText? (Tag.finish label.artist.toList)
    album := Value.ofText? (Tag.finish label.album.toList)
    albumArtist := Value.ofText? (Tag.finish label.albumArtist.toList)
    genre := Value.ofText? (Tag.finish label.genre.toList)
    date := Value.ofText? (Tag.finish label.date.toList)
    year := Value.ofNat? year
    trackNumber := .int label.track.1
    trackTotal := .int label.track.2
    discNumber := .int label.disc.1
    discTotal := .int label.disc.2 }

/-- A label can be read unless the year of its date cannot. -/
theorem read_error_iff {label : TrackLabel} {f : Failure} :
    label.read = .error f ↔ Tag.year label.cleanDate = .error f := by
  rw [read]
  cases Tag.year label.cleanDate with
  | ok year => simp [bind, Except.bind, pure, Except.pure]
  | error g => simp [bind, Except.bind]

theorem read_numbers {label : TrackLabel} {t : Track} (readable : label.read = .ok t) :
    t.trackNumber = .int label.track.1 ∧ t.trackTotal = .int label.track.2 ∧
      t.discNumber = .int label.disc.1 ∧ t.discTotal = .int label.disc.2 := by
  rw [read] at readable
  cases year : Tag.year label.cleanDate with
  | ok n =>
      rw [year] at readable
      rw [← Except.ok.inj readable]
      exact ⟨rfl, rfl, rfl, rfl⟩
  | error g =>
      rw [year] at readable
      cases readable

end TrackLabel

/-! ## Formats -/

/-- The names of all tags. -/
def TagNames.toList (names : TagNames) : List String :=
  [names.title, names.artist, names.albumArtist, names.album, names.genre, names.date, names.track,
    names.disc]

/-- How the files of an audio format hold a label. -/
structure AudioFormat where
  /-- What reads the files. -/
  extractor : Extractor
  names : TagNames
  /-- How a text is held. -/
  text : String → Value
  /-- How a number is held with its total. -/
  numbers : Nat × Nat → Value

namespace AudioFormat

/-- A text in a list of its own. -/
def listed (s : String) : Value :=
  .list [.text s]

/-- A text in a list that a frame carries. -/
def framed (s : String) : Value :=
  .frame (listed s)

/-- A text in a list of its own that wraps it. -/
def attributed (s : String) : Value :=
  .list [.wrapper (.text s)]

/-- A format that holds all it has as text. -/
def textual (e : Extractor) (names : TagNames) (text : String → Value) : AudioFormat where
  extractor := e
  names := names
  text := text
  numbers n := text (Tag.slashed n.1 n.2)

/-- A format that holds the numbers in a list of one pair. -/
def paired (e : Extractor) (names : TagNames) (text : String → Value) : AudioFormat where
  extractor := e
  names := names
  text := text
  numbers n := .list [.tuple [.int n.1, .int n.2]]

/-- The formats whose tags are read, each with the way in which it holds a label. -/
def all : List AudioFormat :=
  [textual .mp3 .comments listed, textual .flac .comments listed,
    textual .oggVorbis .comments listed, textual .wave .frames framed,
    textual .aiff .frames framed, textual .asf .attributes attributed,
    paired .m4a .atoms listed]

/-- Tags that hold a label in the way of a format, whatever else they hold. -/
structure Carries (f : AudioFormat) (label : TrackLabel) (tags : Metadata) : Prop where
  title : tags.value f.names.title = f.text label.title
  artist : tags.value f.names.artist = f.text label.artist
  albumArtist : tags.value f.names.albumArtist = f.text label.albumArtist
  album : tags.value f.names.album = f.text label.album
  genre : tags.value f.names.genre = f.text label.genre
  date : tags.value f.names.date = f.text label.date
  track : tags.value f.names.track = f.numbers label.track
  disc : tags.value f.names.disc = f.numbers label.disc

/-- A label in the way of a format, and nothing else. -/
def tags (f : AudioFormat) (label : TrackLabel) : Metadata :=
  [(f.names.title, f.text label.title), (f.names.artist, f.text label.artist),
    (f.names.albumArtist, f.text label.albumArtist), (f.names.album, f.text label.album),
    (f.names.genre, f.text label.genre), (f.names.track, f.numbers label.track),
    (f.names.disc, f.numbers label.disc), (f.names.date, f.text label.date)]

/-! ## Reading a label -/

variable {f : AudioFormat} {label : TrackLabel} {layout : TagLayout} {found : Metadata}
  {reader : MediaReader} {v : Volume} {cwd p : Path} {bs : List UInt8}

theorem firstText_listed (s : String) : Tag.firstText (listed s) = .ok (Tag.finish s.toList) := by
  simp [listed, Tag.firstText, Tag.itemText, Value.wording, Value.written?, Value.orTooLong]
  rfl

theorem firstText_framed (s : String) : Tag.firstText (framed s) = .ok (Tag.finish s.toList) := by
  rw [framed, Tag.firstText, Tag.itemText, firstText_listed]
  all_goals simp

theorem firstText_attributed (s : String) :
    Tag.firstText (attributed s) = .ok (Tag.finish s.toList) := by
  simp [attributed, Tag.firstText, Tag.itemText, Value.wording, Value.written?, Value.orTooLong]
  rfl

/-- A layout that finds the texts and the numbers of a format: no tag is without a name, texts are
opened, and numbers come out with a slash. -/
structure IsReadBy (f : AudioFormat) (layout : TagLayout) : Prop where
  names : layout.names = f.names
  named : "" ∉ f.names.toList
  text : ∀ s, Tag.firstText (f.text s) = .ok (Tag.finish s.toList)
  numbers : ∀ {tags : Metadata} {name : String} {n : Nat × Nat}, name ≠ "" →
    (0 < n.1 ∧ Number.Fits n.1) → (0 < n.2 ∧ Number.Fits n.2) →
    tags.value name = f.numbers n →
      layout.numberText tags name = .ok (some (Tag.slashed n.1 n.2))

theorem textual_isReadBy {e : Extractor} {names : TagNames} {text : String → Value}
    (named : "" ∉ names.toList)
    (opened : ∀ s, Tag.firstText (text s) = .ok (Tag.finish s.toList)) :
    (textual e names text).IsReadBy ⟨names, false⟩ where
  names := rfl
  named := named
  text := opened
  numbers := by
    intro tags name n notEmpty first second held
    have slashed : tags.value name = text (Tag.slashed n.1 n.2) := held
    rw [TagLayout.numberText, if_neg Bool.false_ne_true, TagLayout.tagText, if_neg notEmpty,
      slashed, opened, Tag.finish_slashed]

theorem paired_isReadBy {e : Extractor} {names : TagNames} {text : String → Value}
    (named : "" ∉ names.toList)
    (opened : ∀ s, Tag.firstText (text s) = .ok (Tag.finish s.toList)) :
    (paired e names text).IsReadBy ⟨names, true⟩ where
  names := rfl
  named := named
  text := opened
  numbers := by
    intro tags name n notEmpty first second held
    have pair : tags.value name = .list [.tuple [.int n.1, .int n.2]] := held
    rw [TagLayout.numberText, if_pos rfl, pair, Tag.pairAsSlash_pair first second]

/-- The extractor of every format goes by a layout that finds what the format holds. -/
theorem isReadBy_of_mem (known : f ∈ all) :
    ∃ name layout, f.extractor = .audio name layout ∧ f.IsReadBy layout := by
  simp only [all, List.mem_cons, List.not_mem_nil, or_false] at known
  rcases known with rfl | rfl | rfl | rfl | rfl | rfl | rfl
  · exact ⟨_, _, rfl, textual_isReadBy (by decide) firstText_listed⟩
  · exact ⟨_, _, rfl, textual_isReadBy (by decide) firstText_listed⟩
  · exact ⟨_, _, rfl, textual_isReadBy (by decide) firstText_listed⟩
  · exact ⟨_, _, rfl, textual_isReadBy (by decide) firstText_framed⟩
  · exact ⟨_, _, rfl, textual_isReadBy (by decide) firstText_framed⟩
  · exact ⟨_, _, rfl, textual_isReadBy (by decide) firstText_attributed⟩
  · exact ⟨_, _, rfl, paired_isReadBy (by decide) firstText_listed⟩

namespace IsReadBy

theorem ne_empty {name : String} (byLayout : f.IsReadBy layout) (listed : name ∈ f.names.toList) :
    name ≠ "" := by
  rintro rfl
  exact byLayout.named listed

theorem tagText {name s : String} (byLayout : f.IsReadBy layout)
    (listed : name ∈ f.names.toList) (held : found.value name = f.text s) :
    TagLayout.tagText found name = .ok (Tag.finish s.toList) := by
  rw [TagLayout.tagText, if_neg (byLayout.ne_empty listed), held, byLayout.text]

theorem numbersOf {name : String} {n : Nat × Nat} (byLayout : f.IsReadBy layout)
    (listed : name ∈ f.names.toList)
    (first : 0 < n.1 ∧ Number.Fits n.1)
    (second : 0 < n.2 ∧ Number.Fits n.2) (held : found.value name = f.numbers n) :
    layout.numbers found name = .ok (some n.1, some n.2) := by
  rw [TagLayout.numbers, byLayout.numbers (byLayout.ne_empty listed) first second held]
  exact Tag.slashNumbers_slashed first.2 second.2

/-- A layout for a format reads from its tags what the label says. -/
theorem ofTags (byLayout : f.IsReadBy layout) (numbered : label.IsNumbered)
    (carried : f.Carries label found) :
    Track.ofTags layout found p =
      label.read.map fun t => { t with fileExtension := .text p.lowerSuffix } := by
  have track : layout.numbers found f.names.track = .ok (some label.track.1, some label.track.2) :=
    byLayout.numbersOf (by simp [TagNames.toList]) (numbered _ (by simp)) (numbered _ (by simp))
      carried.track
  have disc : layout.numbers found f.names.disc = .ok (some label.disc.1, some label.disc.2) :=
    byLayout.numbersOf (by simp [TagNames.toList]) (numbered _ (by simp)) (numbered _ (by simp))
      carried.disc
  have title := byLayout.tagText (by simp [TagNames.toList]) carried.title
  have artist := byLayout.tagText (by simp [TagNames.toList]) carried.artist
  have albumArtist := byLayout.tagText (by simp [TagNames.toList]) carried.albumArtist
  have album := byLayout.tagText (by simp [TagNames.toList]) carried.album
  have genre := byLayout.tagText (by simp [TagNames.toList]) carried.genre
  have date := byLayout.tagText (by simp [TagNames.toList]) carried.date
  simp only [Track.ofTags, byLayout.names, track, disc, title, artist, albumArtist, album, genre,
    date, bind, Except.bind, TrackLabel.read, TrackLabel.cleanDate]
  cases Tag.year ((Tag.finish label.date.toList).getD "") with
  | ok year => simp [Except.map, Value.ofNat?, pure, Except.pure]
  | error failure => rfl

end IsReadBy

/-- From a file that can be opened, an extractor makes a record of its tags. -/
theorem extract_audio {name : String} (opened : v.read? cwd p = .ok bs)
    (accepted : (reader bs).refusal = none) :
    ((Extractor.audio name layout).extract reader v cwd p).outcome =
      (Track.ofTags layout (reader bs).tags p).map .track := by
  have tags : (Extractor.openAudio name reader v cwd p).outcome = .ok (reader bs).tags := by
    simp only [Extractor.openAudio, opened, accepted]
    rfl
  simp only [Extractor.audio, Log.Traced.bind_outcome, tags]
  simp only [Log.Traced.ofExcept]
  cases Track.ofTags layout (reader bs).tags p with
  | ok t => rfl
  | error failure => rfl

/-- All formats tell the same of one label: the record is the same but for the extension of the
file, with the numbers of the label, or all of them fail, which happens for a year that cannot be
read and then alike. -/
theorem extract_label (numbered : label.IsNumbered) :
    (∀ f ∈ all, ∀ (reader : MediaReader) (v : Volume) (cwd p : Path) (bs : List UInt8),
      v.read? cwd p = .ok bs → (reader bs).refusal = none → f.Carries label (reader bs).tags →
        (f.extractor.extract reader v cwd p).outcome =
          label.read.map fun t => .track { t with fileExtension := .text p.lowerSuffix }) ∧
      (∀ t, label.read = .ok t →
        t.trackNumber = .int label.track.1 ∧ t.trackTotal = .int label.track.2 ∧
          t.discNumber = .int label.disc.1 ∧ t.discTotal = .int label.disc.2) ∧
      ∀ failure, label.read = .error failure ↔
        failure = .number (.malformed (String.ofList (label.cleanDate.toList.take 4))) ∧
          Tag.UndecodableYear label.cleanDate := by
  refine ⟨?_, fun t => TrackLabel.read_numbers, fun failure => ?_⟩
  · intro f known reader v cwd p bs opened accepted carried
    obtain ⟨name, layout, extractor, byLayout⟩ := isReadBy_of_mem known
    rw [extractor, extract_audio opened accepted, byLayout.ofTags numbered carried]
    cases label.read with
    | ok t => rfl
    | error failure => rfl
  · rw [TrackLabel.read_error_iff, Tag.year_error_iff]

/-- The tags of a label hold it. -/
theorem carries_tags (known : f ∈ all) : f.Carries label (f.tags label) := by
  simp only [all, List.mem_cons, List.not_mem_nil, or_false] at known
  rcases known with rfl | rfl | rfl | rfl | rfl | rfl | rfl <;> constructor <;> rfl

/-- A label whose date has the digits of another script. -/
def sampleLabel : TrackLabel where
  title := " Dawn\x00"
  artist := "Ann"
  albumArtist := ""
  album := "Days"
  genre := "Folk"
  date := "\u0661\u0669\u0669\u0668-02"
  track := (3, 12)
  disc := (1, 2)

theorem sampleLabel_isNumbered : sampleLabel.IsNumbered := by
  intro n listed
  have small : ∀ n ∈ [3, 12, 1, 2], 0 < n ∧ n < Nat.pow 10 2 := by decide
  exact ⟨(small n listed).1, Number.fits_of_lt (small n listed).2 (by decide)⟩

theorem sampleLabel_year : Tag.year sampleLabel.cleanDate = .ok (some 1998) := by
  have solid : (sampleLabel.date.toList.all fun c => !Text.isBlank c) = true := by
    decide +kernel
  have printed : (sampleLabel.date.toList.all fun c => c ≠ Char.ofNat 0) = true := by decide
  have whole : Tag.finish sampleLabel.date.toList =
      some (String.ofList sampleLabel.date.toList) :=
    Tag.finish_eq_some (by decide) (by simpa using solid) (by simpa using printed)
  have cleaned : sampleLabel.cleanDate = sampleLabel.date := by
    rw [TrackLabel.cleanDate, whole, String.ofList_toList]
    rfl
  have front : sampleLabel.date.toList.take 4 = ['\u0661', '\u0669', '\u0669', '\u0668'] := by
    decide
  have decimal : (['\u0661', '\u0669', '\u0669', '\u0668'].all Text.isDecimal) = true := by decide
  have value : Number.ofDigits ['\u0661', '\u0669', '\u0669', '\u0668'] = 1998 := by decide
  rw [cleaned, Tag.year_of_decimal, front, value]
  · rw [front]
    rfl
  · rw [front]
    exact List.all_eq_true.mp decimal

/-- A tree with one track. -/
def song : Volume :=
  ⟨[(["a.m4a"], .file 0)], [(0, [97])]⟩

/-- The label of one track is read from the files of all formats. -/
theorem extract_label_sample :
    sampleLabel.IsNumbered ∧
      ∀ f ∈ all,
        (f.extractor.extract (fun _ => ⟨f.tags sampleLabel, Media.blank.picture, none⟩) song
          ⟨.root, []⟩ ⟨.root, ["a.m4a"]⟩).outcome =
        .ok (.track {
          title := .text "Dawn", artist := .text "Ann", album := .text "Days", genre := .text "Folk"
          date := .text "\u0661\u0669\u0669\u0668-02", year := .int 1998
          trackNumber := .int 3, trackTotal := .int 12, discNumber := .int 1, discTotal := .int 2
          fileExtension := .text ".m4a" }) := by
  refine ⟨sampleLabel_isNumbered, ?_⟩
  intro f known
  have read : song.read? ⟨.root, []⟩ ⟨.root, ["a.m4a"]⟩ = .ok [97] :=
    Volume.read?_eq_ok_iff.mpr
      ⟨["a.m4a"], 0, Volume.find_root_file (by decide) (by decide) rfl, rfl, rfl⟩
  rw [(extract_label sampleLabel_isNumbered).1 f known _ _ _ _ _ read rfl (carries_tags known),
    TrackLabel.read, sampleLabel_year]
  rfl

end AudioFormat

end MediaNaming
