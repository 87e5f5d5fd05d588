import MediaNaming.Proofs.Metadata.Suffix
import MediaNaming.Proofs.Rename.Turn
import MediaNaming.Proofs.Volume.Plain
/-!
# What the metadata of a file depends on

An extractor opens the file at a path, reads its octets and notes its suffix in lower case. What it
finds is therefore the same wherever the file stands and whatever it is called, as long as the
suffix stays; and a file of a known format has a suffix.
-/

namespace MediaNaming

open Log

variable {reader : MediaReader} {v w : Volume} {cwd otherCwd p q : Path} {bs : List UInt8}
  {metadata : Metadata}

/-! ## Extractors -/

/-- Extractors that find what the octets of a file and its suffix tell, and nothing else. -/
structure Extractor.ReadsOctets (e : Extractor) : Prop where
  opens : ∀ {reader : MediaReader} {v : Volume} {cwd p : Path} {r : MetadataRecord},
    (e.extract reader v cwd p).outcome = .ok r → ∃ bs, v.read? cwd p = .ok bs
  same : ∀ {reader : MediaReader} {v w : Volume} {cwd otherCwd p q : Path} {bs : List UInt8},
    v.read? cwd p = .ok bs → w.read? otherCwd q = .ok bs → p.lowerSuffix = q.lowerSuffix →
      (e.extract reader v cwd p).outcome = (e.extract reader w otherCwd q).outcome

theorem Image.ofPicture_congr (picture : Picture) (suffixes : p.lowerSuffix = q.lowerSuffix) :
    Image.ofPicture picture p = Image.ofPicture picture q := by
  unfold Image.ofPicture
  rw [suffixes]

theorem Track.ofTags_congr (layout : TagLayout) (tags : Metadata)
    (suffixes : p.lowerSuffix = q.lowerSuffix) :
    Track.ofTags layout tags p = Track.ofTags layout tags q := by
  unfold Track.ofTags
  rw [suffixes]

namespace Extractor

theorem image_readsOctets (name : String) : (image name).ReadsOctets where
  opens := by
    intro reader v cwd p r returned
    have read : imageOf reader v cwd p = .ok r := returned
    cases opened : v.read? cwd p with
    | ok bs => exact ⟨bs, rfl⟩
    | error f =>
        rw [imageOf, opened] at read
        cases read
  same := by
    intro reader v w cwd otherCwd p q bs left right suffixes
    have congruent : imageOf reader v cwd p = imageOf reader w otherCwd q := by
      simp only [imageOf, left, right, Image.ofPicture_congr _ suffixes]
    exact congruent

theorem openAudio_congr (name : String) (left : v.read? cwd p = .ok bs)
    (right : w.read? otherCwd q = .ok bs) :
    (openAudio name reader v cwd p).outcome = (openAudio name reader w otherCwd q).outcome := by
  simp only [openAudio, left, right]
  split
  next =>
    split
    next => split <;> rfl
    next => rfl
  next => rfl

theorem openAudio_ok {name : String} {tags : Metadata}
    (returned : (openAudio name reader v cwd p).outcome = .ok tags) :
    ∃ bs, v.read? cwd p = .ok bs := by
  cases opened : v.read? cwd p with
  | ok bs => exact ⟨bs, rfl⟩
  | error f =>
      simp only [openAudio, opened] at returned
      split at returned
      next => cases returned
      next => cases returned

theorem audio_readsOctets (name : String) (layout : TagLayout) :
    (audio name layout).ReadsOctets where
  opens := by
    intro reader v cwd p r returned
    rcases Traced.bind_outcome_ok returned with ⟨tags, opened, -⟩
    exact openAudio_ok opened
  same := by
    intro reader v w cwd otherCwd p q bs left right suffixes
    simp only [audio, Traced.bind_outcome]
    rw [openAudio_congr name left right]
    simp only [Track.ofTags_congr layout _ suffixes]

end Extractor

namespace Registry

/-- The extractors that are known from the start read octets. -/
theorem default_readsOctets {extension : String} {e : Extractor}
    (known : (extension, e) ∈ default) : e.ReadsOctets := by
  simp only [default, List.mem_cons, Prod.mk.injEq, List.not_mem_nil, or_false] at known
  rcases known with ⟨-, rfl⟩ | ⟨-, rfl⟩ | ⟨-, rfl⟩ | ⟨-, rfl⟩ | ⟨-, rfl⟩ | ⟨-, rfl⟩ | ⟨-, rfl⟩ |
    ⟨-, rfl⟩ | ⟨-, rfl⟩ | ⟨-, rfl⟩ | ⟨-, rfl⟩
  · exact Extractor.image_readsOctets "Jpeg"
  · exact Extractor.image_readsOctets "Jpeg"
  · exact Extractor.image_readsOctets "Tiff"
  · exact Extractor.image_readsOctets "Tiff"
  · exact Extractor.audio_readsOctets "Mp3" _
  · exact Extractor.audio_readsOctets "Wave" _
  · exact Extractor.audio_readsOctets "Flac" _
  · exact Extractor.audio_readsOctets "Aiff" _
  · exact Extractor.audio_readsOctets "OggVorbis" _
  · exact Extractor.audio_readsOctets "M4a" _
  · exact Extractor.audio_readsOctets "Asf" _

/-! ## Lookups -/

/-- The metadata of files of the formats that are known from the start. -/
abbrev knownLookup (reader : MediaReader) (cwd : Path) (v : Volume) (p : Path) :
    Traced Metadata :=
  default.lookupMetadata reader v cwd p

theorem extractorFor_ok {r : Registry} {e : Extractor} (routed : r.extractorFor p = .ok e) :
    (p.lowerSuffix, e) ∈ r := by
  simp only [extractorFor] at routed
  split at routed
  next e there =>
    cases routed
    rcases List.lookup_eq_some_iff.mp there with ⟨before, after, same, -⟩
    simp [same]
  next => cases routed

theorem extractorFor_congr (r : Registry) (suffixes : p.lowerSuffix = q.lowerSuffix) :
    r.extractorFor p = r.extractorFor q := by
  unfold extractorFor
  rw [suffixes]

/-- What the metadata of a file tells about it: its octets can be read, and it has a suffix that
cleaning leaves alone. -/
theorem lookupMetadata_ok
    (found : (default.lookupMetadata reader v cwd p).outcome = .ok metadata) :
    (∃ bs, v.read? cwd p = .ok bs) ∧ p.suffix ≠ "" ∧
      ∀ c ∈ p.suffix.toList, isIllegal c = false := by
  simp only [lookupMetadata] at found
  split at found
  next => cases found
  next e routed =>
    have known := extractorFor_ok routed
    rcases Traced.bind_outcome_ok found with ⟨r, extracted, -⟩
    exact ⟨(default_readsOctets known).opens extracted, default_suffix known⟩

/-- Paths of files with the same octets and the same suffix have the same metadata. -/
theorem lookupMetadata_congr (left : v.read? cwd p = .ok bs) (right : w.read? otherCwd q = .ok bs)
    (suffixes : p.lowerSuffix = q.lowerSuffix) :
    (default.lookupMetadata reader v cwd p).outcome =
      (default.lookupMetadata reader w otherCwd q).outcome := by
  simp only [lookupMetadata, extractorFor_congr default suffixes]
  split
  next => rfl
  next e routed =>
    rw [← extractorFor_congr default suffixes] at routed
    have reads := default_readsOctets (extractorFor_ok routed)
    rw [Traced.bind_outcome, Traced.bind_outcome, reads.same left right suffixes]

end Registry

end MediaNaming
