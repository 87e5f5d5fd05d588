import MediaNaming.Metadata.Extractor
import MediaNaming.Proofs.Metadata.StampOrder
import MediaNaming.Proofs.Outcome
import MediaNaming.Proofs.Volume.Reachable
/-!
# The dates of a picture

Six entries of a picture tell when it was taken, digitized and changed. Each of the first two stamps
is written with an offset of its own, for which that of the change stands in; and a picture that
does not tell when it was changed was changed when it was taken. So the entries for one date leave
the others alone, except that the change may be told by the taking.
-/

namespace MediaNaming

namespace Picture

/-! ## The entries that are read -/

/-- The entries of the main directory that are read. -/
def mainNames : List String :=
  ["DateTime", "Make", "Model", "Software", "Artist", "Copyright", "ImageDescription"]

/-- The photographic details that are read. -/
def detailNames : List String :=
  ["OffsetTime", "OffsetTimeOriginal", "OffsetTimeDigitized", "DateTimeOriginal",
    "DateTimeDigitized"]

/-- Texts of the entries of both directories. An entry may have none. -/
structure Texts where
  main : String → Option String
  details : String → Option String

/-- The conversion to text succeeds for all entries that are read, with these texts. -/
structure HasTexts (picture : Picture) (texts : Texts) : Prop where
  main : ∀ name ∈ mainNames, picture.mainText name = .ok (texts.main name)
  details : ∀ name ∈ detailNames, picture.detailText name = .ok (texts.details name)

namespace Texts

/-- A stamp among the details with its own offset if that has a text, and with the offset of the
change otherwise. -/
def stamp (texts : Texts) (name offset : String) : Option String :=
  Stamp.format (texts.details name) ((texts.details offset).or (texts.details "OffsetTime"))

/-- When the picture was taken. -/
def taken (texts : Texts) : Option String :=
  texts.stamp "DateTimeOriginal" "OffsetTimeOriginal"

/-- When the picture was digitized. -/
def digitized (texts : Texts) : Option String :=
  texts.stamp "DateTimeDigitized" "OffsetTimeDigitized"

/-- When the picture was changed. -/
def changed (texts : Texts) : Option String :=
  Stamp.format (texts.main "DateTime") (texts.details "OffsetTime")

/-- The record of a picture whose entries have these texts. -/
def record (texts : Texts) (picture : Picture) (p : Path) : Image where
  dateTime := .ofText? (texts.changed.or texts.taken)
  dateTimeOriginal := .ofText? texts.taken
  dateTimeDigitized := .ofText? texts.digitized
  make := .ofText? (texts.main "Make")
  model := .ofText? (texts.main "Model")
  software := .ofText? (texts.main "Software")
  artist := .ofText? (texts.main "Artist")
  copyright := .ofText? (texts.main "Copyright")
  imageDescription := .ofText? (texts.main "ImageDescription")
  width := picture.width
  height := picture.height
  fileExtension := .text p.lowerSuffix

end Texts

variable {picture other : Picture} {texts texts' : Texts} {names : List String} {name : String}
  {reader reader' : MediaReader} {v v' : Volume} {cwd cwd' p : Path}

theorem ofPicture_of_hasTexts (converted : picture.HasTexts texts) (p : Path) :
    Image.ofPicture picture p = .ok (texts.record picture p) := by
  have main := converted.main
  have details := converted.details
  simp only [mainNames, detailNames, List.forall_mem_cons] at main details
  simp only [Image.ofPicture, main, details, ok_bind]
  rfl

/-- The file at a path is opened as a picture. -/
def Opens (reader : MediaReader) (v : Volume) (cwd p : Path) (picture : Picture) : Prop :=
  ∃ bs, v.read? cwd p = .ok bs ∧ (reader bs).refusal = none ∧ (reader bs).picture = picture

theorem extract_of_hasTexts (opened : Opens reader v cwd p picture)
    (converted : picture.HasTexts texts) (format : String) :
    ((Extractor.image format).extract reader v cwd p).outcome =
      .ok (.image (texts.record picture p)) := by
  obtain ⟨bs, read, accepted, rfl⟩ := opened
  have found : Extractor.imageOf reader v cwd p =
      .ok (.image (texts.record (reader bs).picture p)) := by
    simp only [Extractor.imageOf, read, ok_bind, accepted, ofPicture_of_hasTexts converted]
    rfl
  exact found

/-! ## The date of the change -/

theorem isSet_ofText? {o : Option String} (filled : "" ∉ o) :
    MetadataRecord.isSet (.ofText? o) = o.isSome := by
  cases o with
  | none => rfl
  | some s =>
      have notEmpty : s ≠ "" := by simpa [eq_comm] using filled
      simp [Value.ofText?, MetadataRecord.isSet, Value.isEmptyText, notEmpty]

/-- The date of the change is found in the mapping just if it is set. -/
theorem lookup_dateTime (i : Image) : (MetadataRecord.image i).mapping.lookup "date_time" =
    if MetadataRecord.isSet i.dateTime then some i.dateTime else none := by
  have fields : (MetadataRecord.image i).mapping =
      (("date_time", i.dateTime) :: i.fields.tail).filter fun f => MetadataRecord.isSet f.2 := rfl
  have others : ∀ f ∈ i.fields.tail, ("date_time" == f.1) = false := by
    simp [Image.fields]
  rw [fields, List.filter_cons]
  split
  next => exact List.lookup_cons_self
  next =>
    rw [List.lookup_eq_none_iff]
    intro f member
    rw [bne, others f (List.mem_of_mem_filter member), Bool.not_false]

/-- The change of a picture is told just if its change or its taking is. -/
theorem lookup_dateTime_record (texts : Texts) (picture : Picture) (p : Path) :
    (∃ w, (MetadataRecord.image (texts.record picture p)).mapping.lookup "date_time" = some w) ↔
      texts.changed ≠ none ∨ texts.taken ≠ none := by
  have filled : "" ∉ texts.changed.or texts.taken := by
    intro empty
    rcases Option.or_eq_some_iff.mp empty with changed | ⟨-, taken⟩
    · rw [Texts.changed] at changed
      exact Stamp.empty_not_mem_format _ _ changed
    · rw [Texts.taken, Texts.stamp] at taken
      exact Stamp.empty_not_mem_format _ _ taken
  have told : (texts.record picture p).dateTime = .ofText? (texts.changed.or texts.taken) := rfl
  rw [lookup_dateTime, told, isSet_ofText? filled]
  cases texts.changed with
  | none => cases texts.taken with
    | none => simp
    | some t => simp
  | some t => simp

/-! ## Two pictures -/

/-- Two pictures that differ in nothing but some of the details. -/
structure SameBut (names : List String) (picture other : Picture) : Prop where
  width : picture.width = other.width
  height : picture.height = other.height
  main : ∀ name, picture.main.value name = other.main.value name
  details : ∀ name ∉ names, picture.details.value name = other.details.value name

namespace SameBut

theorem main_eq (same : picture.SameBut names other) (converted : picture.HasTexts texts)
    (converted' : other.HasTexts texts') (read : name ∈ mainNames) :
    texts'.main name = texts.main name := by
  have first := converted.main name read
  have second := converted'.main name read
  rw [mainText, same.main name] at first
  exact Except.ok.inj (second.symm.trans first)

theorem details_eq (same : picture.SameBut names other) (converted : picture.HasTexts texts)
    (converted' : other.HasTexts texts') (read : name ∈ detailNames) (outside : name ∉ names) :
    texts'.details name = texts.details name := by
  have first := converted.details name read
  have second := converted'.details name read
  rw [detailText, same.details name outside] at first
  exact Except.ok.inj (second.symm.trans first)

/-- A stamp is the same if it is not among what differs, nor are its offsets. -/
theorem stamp_eq (same : picture.SameBut names other) (converted : picture.HasTexts texts)
    (converted' : other.HasTexts texts') {offset : String} (read : name ∈ detailNames)
    (read' : offset ∈ detailNames) (outside : name ∉ names) (outside' : offset ∉ names)
    (kept : "OffsetTime" ∉ names) : texts'.stamp name offset = texts.stamp name offset := by
  rw [Texts.stamp, Texts.stamp, same.details_eq converted converted' read outside,
    same.details_eq converted converted' read' outside',
    same.details_eq converted converted' (by simp [detailNames]) kept]

theorem changed_eq (same : picture.SameBut names other) (converted : picture.HasTexts texts)
    (converted' : other.HasTexts texts') (kept : "OffsetTime" ∉ names) :
    texts'.changed = texts.changed := by
  rw [Texts.changed, Texts.changed, same.main_eq converted converted' (by simp [mainNames]),
    same.details_eq converted converted' (by simp [detailNames]) kept]

/-- If the details are not those of the change, the records differ in the other two dates at most,
and in the date of the change where it is told by the taking. -/
theorem record_eq (same : picture.SameBut names other) (converted : picture.HasTexts texts)
    (converted' : other.HasTexts texts') (kept : "OffsetTime" ∉ names) :
    texts'.record other p = { texts.record picture p with
      dateTime := .ofText? (texts.changed.or texts'.taken)
      dateTimeOriginal := .ofText? texts'.taken
      dateTimeDigitized := .ofText? texts'.digitized } := by
  have main : ∀ name ∈ mainNames, texts'.main name = texts.main name :=
    fun name => same.main_eq converted converted'
  simp only [mainNames, List.forall_mem_cons] at main
  simp only [Texts.record, same.changed_eq converted converted' kept, main, same.width,
    same.height]

end SameBut

/-! ## Which entries the dates come from -/

/-- From a picture whose entries can be read as text, a record comes out. The dates of the taking
and of the digitization come from their own stamps, with their own offsets or that of the change;
the date of the change comes from its stamp and its offset, and is that of the taking where these
give nothing, so that it is told just if one of the two is. Hence other entries for the digitization
change its date only; and other entries for the taking change its date and perhaps that of the
change, which stays if its own stamp gives it. -/
theorem extract_dates (opened : Opens reader v cwd p picture) (converted : picture.HasTexts texts)
    (format : String) :
    ∃ i, ((Extractor.image format).extract reader v cwd p).outcome = .ok (.image i) ∧
      i.dateTimeOriginal = .ofText? texts.taken ∧
      i.dateTimeDigitized = .ofText? texts.digitized ∧
      (∀ t, texts.changed = some t → i.dateTime = .text t) ∧
      (texts.changed = none → i.dateTime = i.dateTimeOriginal) ∧
      ((∃ w, (MetadataRecord.image i).mapping.lookup "date_time" = some w) ↔
        texts.changed ≠ none ∨ texts.taken ≠ none) ∧
      ∀ reader' v' cwd' other texts', Opens reader' v' cwd' p other → other.HasTexts texts' →
        ∃ j, ((Extractor.image format).extract reader' v' cwd' p).outcome = .ok (.image j) ∧
          (picture.SameBut ["OffsetTimeDigitized", "DateTimeDigitized"] other →
            j = { i with dateTimeDigitized := j.dateTimeDigitized }) ∧
          (picture.SameBut ["OffsetTimeOriginal", "DateTimeOriginal"] other →
            j = { i with
              dateTime := j.dateTime
              dateTimeOriginal := j.dateTimeOriginal } ∧
            (texts.changed ≠ none → j.dateTime = i.dateTime)) := by
  refine ⟨texts.record picture p, extract_of_hasTexts opened converted format, rfl, rfl, ?_, ?_,
    lookup_dateTime_record texts picture p, ?_⟩
  · intro t changed
    simp only [Texts.record, changed, Option.some_or, Value.ofText?]
  · intro unchanged
    simp only [Texts.record, unchanged, Option.none_or]
  · intro reader' v' cwd' other texts' opened' converted'
    refine ⟨texts'.record other p, extract_of_hasTexts opened' converted' format, ?_, ?_⟩
    · intro same
      have taken : texts'.taken = texts.taken :=
        same.stamp_eq converted converted' (by decide) (by decide) (by decide) (by decide)
          (by decide)
      rw [same.record_eq converted converted' (by decide), taken]
      rfl
    · intro same
      have digitized : texts'.digitized = texts.digitized :=
        same.stamp_eq converted converted' (by decide) (by decide) (by decide) (by decide)
          (by decide)
      rw [same.record_eq converted converted' (by decide), digitized]
      refine ⟨rfl, ?_⟩
      intro told
      obtain ⟨t, changed⟩ := Option.ne_none_iff_exists'.mp told
      simp only [Texts.record, changed, Option.some_or]

/-- A tree with one picture. -/
def snapshot : Volume :=
  ⟨[(["a.jpg"], .file 0)], [(0, [255])]⟩

/-- A picture that does not tell when it was changed, digitized at some offset. -/
def scanned (offset : String) : Picture where
  width := .int 4
  height := .int 3
  main := []
  details := [("OffsetTime", .text "+02:00"), ("OffsetTimeDigitized", .text offset),
    ("DateTimeOriginal", .text "2003:09:03 12:52:43"),
    ("DateTimeDigitized", .text "2003:09:04 08:00:00")]

/-- The texts of the picture: all but the offset of the taking. -/
def scannedTexts (offset : String) : Texts where
  main _ := none
  details name := ((scanned offset).details.lookup name).bind fun
    | .text s => Tag.finish s.toList
    | _ => none

theorem scanned_hasTexts (offset : String) : (scanned offset).HasTexts (scannedTexts offset) := by
  have held : ∀ name s, (scanned offset).details.lookup name = some (.text s) →
      (scanned offset).detailText name = .ok ((scannedTexts offset).details name) := by
    intro name s found
    simp only [detailText, Metadata.value, scannedTexts, found, Option.getD_some, Option.bind_some]
    exact Tag.firstText_text s
  have absent : ∀ name, (scanned offset).details.lookup name = none →
      (scanned offset).detailText name = .ok ((scannedTexts offset).details name) := by
    intro name missing
    simp only [detailText, Metadata.value, scannedTexts, missing, Option.getD_none,
      Option.bind_none]
    exact Tag.firstText_null
  constructor
  · intro name listed
    exact Tag.firstText_null
  · simp only [detailNames, List.forall_mem_cons]
    exact ⟨held _ _ rfl, absent _ rfl, held _ _ rfl, held _ _ rfl, held _ _ rfl, by simp⟩

/-- With another offset of the digitization, the picture was changed when it was before. -/
theorem extract_dates_scanned :
    ∃ i j, (Extractor.jpeg.extract (fun _ => ⟨[], scanned "+01:00", none⟩) snapshot ⟨.root, []⟩
        ⟨.root, ["a.jpg"]⟩).outcome = .ok (.image i) ∧
      (Extractor.jpeg.extract (fun _ => ⟨[], scanned "01:00", none⟩) snapshot ⟨.root, []⟩
        ⟨.root, ["a.jpg"]⟩).outcome = .ok (.image j) ∧
      i.dateTime = .text "2003-09-03 12:52:43 +0200" ∧
      i.dateTimeDigitized = .text "2003-09-04 08:00:00 +0100" ∧
      j = { i with dateTimeDigitized := .text "2003-09-04 08:00:00" } := by
  have read : snapshot.read? ⟨.root, []⟩ ⟨.root, ["a.jpg"]⟩ = .ok [255] :=
    Volume.read?_eq_ok_iff.mpr
      ⟨["a.jpg"], 0, Volume.find_root_file (by decide) (by decide) rfl, rfl, rfl⟩
  have opened : ∀ offset, Opens (fun _ => ⟨[], scanned offset, none⟩) snapshot ⟨.root, []⟩
      ⟨.root, ["a.jpg"]⟩ (scanned offset) := fun offset => ⟨[255], read, rfl, rfl⟩
  have same : (scanned "+01:00").SameBut ["OffsetTimeDigitized", "DateTimeDigitized"]
      (scanned "01:00") := by
    refine ⟨rfl, rfl, fun _ => rfl, ?_⟩
    intro name outside
    have other : (name == "OffsetTimeDigitized") = false := by
      rw [beq_eq_false_iff_ne]
      rintro rfl
      exact outside List.mem_cons_self
    simp [scanned, Metadata.value, List.lookup_cons, other]
  have taken : (scannedTexts "+01:00").taken = some "2003-09-03 12:52:43 +0200" := by
    decide +kernel
  have east : (scannedTexts "+01:00").digitized = some "2003-09-04 08:00:00 +0100" := by
    decide +kernel
  have nowhere : (scannedTexts "01:00").digitized = some "2003-09-04 08:00:00" := by
    decide +kernel
  obtain ⟨i, first, original, digitized, -, untold, -, runs⟩ :=
    extract_dates (opened "+01:00") (scanned_hasTexts "+01:00") "Jpeg"
  obtain ⟨j, second, alone, -⟩ := runs _ _ _ _ _ (opened "01:00") (scanned_hasTexts "01:00")
  obtain ⟨j', again, -, digitized', -⟩ :=
    extract_dates (opened "01:00") (scanned_hasTexts "01:00") "Jpeg"
  rw [again] at second
  cases second
  refine ⟨i, j, first, again, ?_, ?_, ?_⟩
  · rw [untold rfl, original, taken]
    rfl
  · rw [digitized, east]
    rfl
  · rw [alone same, digitized', nowhere]
    rfl

end Picture

end MediaNaming
