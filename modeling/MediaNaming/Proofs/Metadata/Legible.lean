import MediaNaming.Proofs.Metadata.Formats
/-!
# Tracks with numbers that cannot be read

All fields of a track are read one after another, and each from its own tag. Where all tags are
texts, only the numbers of track and disc and the year can stand in the way: a tag that is misread
fails the reading of the whole track, while a text that is no number leaves out its own field only.
-/

namespace MediaNaming

variable {s : String}

namespace Tag

/-! ## Tags that are texts -/

/-- A tag that is a text or a list of texts, or that is not there. -/
inductive Textual : Value → Prop where
  | absent : Textual .null
  | bare (s : String) : Textual (.text s)
  | listed (ss : List String) : Textual (.list (ss.map .text))

/-- A name that is not there has null for its value. -/
theorem textual_value {tags : Metadata} (textual : ∀ e ∈ tags, Textual e.2) (name : String) :
    Textual (tags.value name) := by
  induction tags with
  | nil => exact .absent
  | cons e rest ih =>
      rw [Metadata.value, List.lookup_cons]
      cases name == e.1 with
      | true => exact textual e List.mem_cons_self
      | false => exact ih fun d listed => textual d (List.mem_cons_of_mem e listed)

/-- The text of such a tag. -/
def heldText? : Value → Option String
  | .text s => some s
  | .list (.text s :: _) => some s
  | _ => none

variable {v : Value}

/-- A text comes out of such a tag in any case. -/
theorem firstText_of_textual (textual : Textual v) :
    firstText v = .ok ((heldText? v).bind fun s => finish s.toList) := by
  cases textual with
  | absent => exact firstText_null
  | bare s => rw [firstText_text, heldText?, Option.bind_some]
  | listed ss =>
      cases ss with
      | nil => simp [firstText, heldText?]
      | cons s ss =>
          have inside : Inside (.list ((s :: ss).map .text)) s :=
            ⟨.text s, by simp [innermost, innermostItem], rfl⟩
          rw [firstText_of_inside inside, List.map_cons, heldText?, Option.bind_some]

/-- What stands for a pair in such a tag: nothing, or the first two characters of the first text of
a list with a slash between them. Of a text that is no list, or too short, no pair can be made. -/
def pairSource? : Value → Option String
  | .text s => if s = "" then some "" else none
  | .list (.text s :: _) =>
    match s.toList with
    | number :: total :: _ => some (String.ofList [number, '/', total])
    | _ => none
  | _ => some ""

/-- The items of a text are its characters. -/
theorem pairNumber_text (s : String) (index : Nat) : pairNumber (.text s) index =
    match s.toList[index]? with
    | some c => .ok (.text (String.singleton c))
    | none => .error (.outOfRange "str") := by
  rw [pairNumber, item]
  simp only [List.getElem?_map]
  cases s.toList[index]? with
  | none => rfl
  | some c => rfl

theorem pairText_singleton (c : Char) :
    pairText (.text (String.singleton c)) = .ok (String.singleton c) := by
  have filled : (Value.text (String.singleton c)).isTruthy = true := by simp [Value.isTruthy]
  rw [pairText, if_pos filled]
  rfl

/-- No pair can be made of a text: its first character is taken for the pair. -/
theorem pairAsSlash_text (filled : s ≠ "") :
    pairAsSlash (.text s) = .error (.outOfRange "str") := by
  cases chars : s.toList with
  | nil => exact absurd (String.toList_eq_nil_iff.mp chars) filled
  | cons c rest =>
      have truthy : (Value.text s).isTruthy = true := decide_eq_true filled
      have first : item (.text s) 0 = .ok (.text (String.singleton c)) := by simp [item, chars]
      have number := pairNumber_text (String.singleton c) 0
      have total := pairNumber_text (String.singleton c) 1
      rw [String.toList_singleton] at number total
      simp only [List.getElem?_cons_zero, List.getElem?_cons_succ, List.getElem?_nil]
        at number total
      simp only [pairAsSlash, firstPair, truthy, if_true, first, number, total, bind, Except.bind]

/-- The first text of a list is taken for the pair. -/
theorem pairAsSlash_texts (s : String) (rest : List Value) :
    pairAsSlash (.list (.text s :: rest)) =
      match s.toList with
      | number :: total :: _ => .ok (some (String.ofList [number, '/', total]))
      | _ => .error (.outOfRange "str") := by
  have truthy : (Value.list (.text s :: rest)).isTruthy = true := rfl
  have first : item (.list (.text s :: rest)) 0 = .ok (.text s) := rfl
  have number := pairNumber_text s 0
  have total := pairNumber_text s 1
  simp only [pairAsSlash, firstPair, truthy, if_true, first, number, total, bind, Except.bind]
  cases s.toList with
  | nil => rfl
  | cons c others =>
      cases others with
      | nil => rfl
      | cons d others =>
          have joined : String.singleton c ++ "/" ++ String.singleton d =
              String.ofList [c, '/', d] := by
            rw [← String.toList_inj]
            simp
          simp only [List.getElem?_cons_zero, List.getElem?_cons_succ, pure, Except.pure,
            pairText_singleton, joined]

theorem pairAsSlash_of_textual (textual : Textual v) :
    (pairAsSlash v).map (·.getD "") =
      match pairSource? v with
      | some s => .ok s
      | none => .error (.outOfRange "str") := by
  cases textual with
  | absent => rfl
  | bare s =>
      by_cases filled : s = ""
      · rw [filled]
        rfl
      · simp [pairAsSlash_text filled, pairSource?, filled, Except.map]
  | listed ss =>
      cases ss with
      | nil => rfl
      | cons s ss =>
          rw [List.map_cons, pairAsSlash_texts, pairSource?]
          cases s.toList with
          | nil => rfl
          | cons c others => cases others <;> rfl

end Tag

/-! ## The numbers of a track -/

open Tag (MisreadNumbers Textual UndecodableYear writtenNumbers writtenYear?)

namespace TagLayout

variable {layout : TagLayout} {tags : Metadata} {name : String} {r : Option Nat × Option Nat}

/-- The text that comes out of a tag that is a text or a list of texts. -/
def foundText? (tags : Metadata) (name : String) : Option String :=
  if name = "" then none else (Tag.heldText? (tags.value name)).bind fun s => Tag.finish s.toList

theorem tagText_of_textual (textual : Textual (tags.value name)) :
    tagText tags name = .ok (foundText? tags name) := by
  rw [tagText, foundText?]
  split
  next unnamed => rfl
  next named => exact Tag.firstText_of_textual textual

/-- The text that a number and its total are read from. Only a layout with pairs may have none. -/
def numberSource? (layout : TagLayout) (tags : Metadata) (name : String) : Option String :=
  if layout.pairedNumbers then Tag.pairSource? (tags.value name)
  else some ((foundText? tags name).getD "")

theorem numberText_of_textual (textual : Textual (tags.value name)) :
    (layout.numberText tags name).map (·.getD "") =
      match layout.numberSource? tags name with
      | some s => .ok s
      | none => .error (.outOfRange "str") := by
  rw [numberText, numberSource?]
  split
  next paired => exact Tag.pairAsSlash_of_textual textual
  next plain =>
    rw [tagText_of_textual textual]
    rfl

/-- Numbers are read from their text if there is one. -/
theorem numbers_eq (textual : Textual (tags.value name)) : layout.numbers tags name =
    match layout.numberSource? tags name with
    | some s => Tag.slashNumbers s
    | none => .error (.outOfRange "str") := by
  have source : (layout.numberText tags name).map (·.getD "") = _ := numberText_of_textual textual
  rw [numbers]
  cases found : layout.numberSource? tags name with
  | none =>
      rw [found] at source
      exact bind_error_iff.mpr (.inl (map_error_iff.mp source))
  | some s =>
      rw [found] at source
      obtain ⟨text, written, rfl⟩ := map_ok_iff.mp source
      rw [written, ok_bind]

theorem numbers_eq_ok_iff (textual : Textual (tags.value name)) :
    layout.numbers tags name = .ok r ↔
      ∃ s, layout.numberSource? tags name = some s ∧ ¬ MisreadNumbers s ∧ r = writtenNumbers s := by
  rw [numbers_eq textual]
  cases layout.numberSource? tags name with
  | none => simp
  | some s => simp [Tag.slashNumbers_eq_ok_iff]

/-- Tags from which the numbers and the year of a track can be read: there are texts for the
numbers, no part of which is misread, and the date has no undecodable year. -/
structure Legible (layout : TagLayout) (tags : Metadata) : Prop where
  track : ∃ s, layout.numberSource? tags layout.names.track = some s ∧ ¬ MisreadNumbers s
  disc : ∃ s, layout.numberSource? tags layout.names.disc = some s ∧ ¬ MisreadNumbers s
  date : ¬ UndecodableYear ((foundText? tags layout.names.date).getD "")

/-- The numbers that the tag of a name writes. -/
def numbersIn (layout : TagLayout) (tags : Metadata) (name : String) : Option Nat × Option Nat :=
  writtenNumbers ((layout.numberSource? tags name).getD "")

/-- The track that tags of text write, each field of it in its own tag. -/
def trackIn (layout : TagLayout) (tags : Metadata) (p : Path) : Track where
  title := .ofText? (foundText? tags layout.names.title)
  artist := .ofText? (foundText? tags layout.names.artist)
  album := .ofText? (foundText? tags layout.names.album)
  albumArtist := .ofText? (foundText? tags layout.names.albumArtist)
  genre := .ofText? (foundText? tags layout.names.genre)
  date := .ofText? (foundText? tags layout.names.date)
  year := .ofNat? (writtenYear? ((foundText? tags layout.names.date).getD ""))
  trackNumber := .ofNat? (layout.numbersIn tags layout.names.track).1
  trackTotal := .ofNat? (layout.numbersIn tags layout.names.track).2
  discNumber := .ofNat? (layout.numbersIn tags layout.names.disc).1
  discTotal := .ofNat? (layout.numbersIn tags layout.names.disc).2
  fileExtension := .text p.lowerSuffix

/-- A track is read from tags of text just if they are legible. -/
theorem ofTags_eq_ok_iff {p : Path} {t : Track} (textual : ∀ name, Textual (tags.value name)) :
    Track.ofTags layout tags p = .ok t ↔ layout.Legible tags ∧ t = layout.trackIn tags p := by
  have texts : ∀ name, tagText tags name = .ok (foundText? tags name) := fun name =>
    tagText_of_textual (textual name)
  rw [Track.ofTags, bind_ok_iff]
  constructor
  · rintro ⟨track, first, further⟩
    obtain ⟨disc, second, further⟩ := bind_ok_iff.mp further
    simp only [texts, ok_bind] at further
    obtain ⟨year, third, same⟩ := bind_ok_iff.mp further
    obtain ⟨s, source, readable, rfl⟩ := (numbers_eq_ok_iff (textual _)).mp first
    obtain ⟨s', source', readable', rfl⟩ := (numbers_eq_ok_iff (textual _)).mp second
    obtain ⟨decodable, rfl⟩ := Tag.year_eq_ok_iff.mp third
    refine ⟨⟨⟨s, source, readable⟩, ⟨s', source', readable'⟩, decodable⟩, ?_⟩
    rw [← Except.ok.inj same]
    simp only [trackIn, numbersIn, source, source', Option.getD_some]
  · rintro ⟨⟨⟨s, source, readable⟩, ⟨s', source', readable'⟩, decodable⟩, rfl⟩
    refine ⟨_, (numbers_eq_ok_iff (textual _)).mpr ⟨s, source, readable, rfl⟩, ?_⟩
    refine bind_ok_iff.mpr
      ⟨_, (numbers_eq_ok_iff (textual _)).mpr ⟨s', source', readable', rfl⟩, ?_⟩
    simp only [texts, ok_bind]
    refine bind_ok_iff.mpr ⟨_, Tag.year_of_not_undecodable decodable, ?_⟩
    simp only [trackIn, numbersIn, source, source', Option.getD_some]
    rfl

end TagLayout

namespace Extractor

/-- Numbers in tags of text. A number with a total, and a year, are read as they are written unless
a part is misread or the year cannot be decoded, and then reading fails. From an audio file that
can be opened and has texts in all tags, the track that they write is read just if they are legible:
a text that is merely no number costs its own field, and one that is misread the whole track. -/
theorem audio_numbers (text date : String) :
    ((¬ MisreadNumbers text → Tag.slashNumbers text = .ok (writtenNumbers text)) ∧
      (MisreadNumbers text → ∃ flaw, Tag.slashNumbers text = .error (.number flaw))) ∧
    ((¬ UndecodableYear date → Tag.year date = .ok (writtenYear? date)) ∧
      (UndecodableYear date → ∃ flaw, Tag.year date = .error (.number flaw))) ∧
    ∀ (name : String) (layout : TagLayout) (reader : MediaReader) (v : Volume) (cwd p : Path)
      (bs : List UInt8), v.read? cwd p = .ok bs → (reader bs).refusal = none →
      (∀ e ∈ (reader bs).tags, Textual e.2) → ∀ m : MetadataRecord,
        ((audio name layout).extract reader v cwd p).outcome = .ok m ↔
          layout.Legible (reader bs).tags ∧ m = .track (layout.trackIn (reader bs).tags p) := by
  refine ⟨⟨Tag.slashNumbers_of_not_misread, Tag.slashNumbers_of_misread⟩,
    ⟨Tag.year_of_not_undecodable, fun undecodable => ⟨_, Tag.year_of_undecodable undecodable⟩⟩, ?_⟩
  intro name layout reader v cwd p bs opened accepted textual m
  have texts : ∀ name, Textual ((reader bs).tags.value name) := Tag.textual_value textual
  rw [AudioFormat.extract_audio opened accepted, map_ok_iff]
  constructor
  · rintro ⟨t, returned, rfl⟩
    obtain ⟨legible, rfl⟩ := (TagLayout.ofTags_eq_ok_iff texts).mp returned
    exact ⟨legible, rfl⟩
  · rintro ⟨legible, rfl⟩
    exact ⟨_, (TagLayout.ofTags_eq_ok_iff texts).mpr ⟨legible, rfl⟩, rfl⟩

/-- A reader that finds the same tags in every file. -/
def reading (tags : Metadata) : MediaReader :=
  fun _ => ⟨tags, Media.blank.picture, none⟩

/-- Tags with a track that is no number and a date without a year. -/
def sampleTags : Metadata :=
  [("title", .list [.text "Dawn"]), ("tracknumber", .list [.text "A1/12"]),
    ("discnumber", .text " \u0662\n"), ("date", .list [.text "unknown", .text "1998"])]

/-- The track and the year are missing from the record, and everything else is there. -/
theorem audio_numbers_sample :
    Tag.slashNumbers "A1/12" = .ok (none, some 12) ∧ Tag.year "unknown" = .ok none ∧
      (∀ e ∈ sampleTags, Textual e.2) ∧ (TagLayout.mk .comments false).Legible sampleTags ∧
      (mp3.extract (reading sampleTags) AudioFormat.song ⟨.root, []⟩ ⟨.root, ["a.m4a"]⟩).outcome =
        .ok (.track {
          title := .text "Dawn", artist := .null, album := .null, albumArtist := .null
          genre := .null, date := .text "unknown", year := .null
          trackNumber := .null, trackTotal := .int 12, discNumber := .int 2, discTotal := .null
          fileExtension := .text ".m4a" }) := by
  have readable : ¬ MisreadNumbers "A1/12" := by decide +kernel
  have written : writtenNumbers "A1/12" = (none, some 12) := by decide +kernel
  have decodable : ¬ UndecodableYear "unknown" := by
    intro undecodable
    have digit := undecodable.digits 'u' (by decide)
    revert digit
    decide
  have textual : ∀ e ∈ sampleTags, Textual e.2 := by
    simp only [sampleTags, List.forall_mem_cons, List.not_mem_nil, false_implies, implies_true,
      and_true]
    exact ⟨.listed ["Dawn"], .listed ["A1/12"], .bare _, .listed ["unknown", "1998"]⟩
  have date : (TagLayout.foundText? sampleTags "date").getD "" = "unknown" := by decide +kernel
  have legible : (TagLayout.mk .comments false).Legible sampleTags := by
    refine ⟨⟨"A1/12", ?_, readable⟩, ⟨"\u0662", ?_, ?_⟩, ?_⟩
    · decide +kernel
    · decide +kernel
    · decide +kernel
    · rwa [TagNames.comments, date]
  have read : AudioFormat.song.read? ⟨.root, []⟩ ⟨.root, ["a.m4a"]⟩ = .ok [97] :=
    Volume.read?_eq_ok_iff.mpr
      ⟨["a.m4a"], 0, Volume.find_root_file (by decide) (by decide) rfl, rfl, rfl⟩
  obtain ⟨numbers, year, extracted⟩ := audio_numbers "A1/12" "unknown"
  refine ⟨?_, year.1 decodable, textual, legible, ?_⟩
  · rw [numbers.1 readable, written]
  · rw [mp3, extracted "Mp3" ⟨.comments, false⟩ (reading sampleTags) _ _ _ _ read rfl textual]
    refine ⟨legible, ?_⟩
    rfl

/-- Tags with a title and the digit two above the line for the track. -/
def raisedTags : Metadata :=
  [("title", .list [.text "Dawn"]), ("tracknumber", .list [.text "\u00b2"])]

/-- A raised digit, a number with an information separator behind it and a year of raised digits are
failures, and the raised digit alone keeps the title from being read. -/
theorem raisedDigit_fails :
    Tag.slashNumbers "\u00b2" = .error (.number (.malformed "\u00b2")) ∧
      Tag.slashNumbers "5\x1c/9" = .error (.number (.malformed "5\x1c")) ∧
      Tag.year "\u00b2\u00b2\u00b2\u00b2" =
        .error (.number (.malformed "\u00b2\u00b2\u00b2\u00b2")) ∧
      (∀ e ∈ raisedTags, Textual e.2) ∧
      (mp3.extract (reading raisedTags) AudioFormat.song ⟨.root, []⟩ ⟨.root, ["a.m4a"]⟩).outcome =
        .error (.number (.malformed "\u00b2")) := by
  have textual : ∀ e ∈ raisedTags, Textual e.2 := by
    simp only [raisedTags, List.forall_mem_cons, List.not_mem_nil, false_implies, implies_true,
      and_true]
    exact ⟨.listed ["Dawn"], .listed ["\u00b2"]⟩
  have read : AudioFormat.song.read? ⟨.root, []⟩ ⟨.root, ["a.m4a"]⟩ = .ok [97] :=
    Volume.read?_eq_ok_iff.mpr
      ⟨["a.m4a"], 0, Volume.find_root_file (by decide) (by decide) rfl, rfl, rfl⟩
  have failed : Track.ofTags ⟨.comments, false⟩ raisedTags ⟨.root, ["a.m4a"]⟩ =
      .error (.number (.malformed "\u00b2")) := by
    apply bind_error_iff.mpr
    left
    rw [TagLayout.numbers_eq (Tag.textual_value textual _)]
    rfl
  refine ⟨rfl, rfl, rfl, textual, ?_⟩
  rw [mp3, AudioFormat.extract_audio read rfl]
  exact map_error_iff.mpr failed

end Extractor

end MediaNaming
