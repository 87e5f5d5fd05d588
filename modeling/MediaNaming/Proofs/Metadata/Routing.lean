import MediaNaming.Metadata.Registry
import MediaNaming.Proofs.Outcome
import MediaNaming.Proofs.Rename.Turn
import Mathlib.Data.List.Induction
/-!
# Routing by registrations

Extractors are registered one after another, for extensions in any spelling, and a blank extension
is refused. Whatever the registrations, a file has the extractor of the last accepted one that
spells its suffix, and no extractor if there is none. The extensions of a registry are the suffixes
that its accepted registrations spell.
-/

namespace MediaNaming

theorem Text.lower_eq_empty_iff {s : String} : Text.lower s = "" ↔ s = "" := by
  constructor
  · intro empty
    cases chars : s.toList with
    | nil => exact String.toList_eq_nil_iff.mp chars
    | cons c rest =>
        have some : lowerFrom [] (c :: rest) ≠ [] := by
          simp only [lowerFrom]
          split
          next => simp
          next => split <;> simp
        rw [lower, chars, String.ofList_eq_empty_iff] at empty
        exact absurd empty some
  · rintro rfl
    rfl

namespace Registry

variable {r s : Registry} {written suffix : String} {e f : Extractor}
  {history calls assignments : List (String × Extractor)} {a : String × Extractor}

/-! ## Spellings -/

/-- An extension with a dot in front. -/
def dotted (extension : String) : String :=
  if extension.toList.head? = some '.' then extension else "." ++ extension

/-- An extension spells a suffix: without white space around it, in lower case and with a dot in
front, it is the suffix. A blank extension spells none. -/
def Spells (written suffix : String) : Prop :=
  Text.strip written ≠ "" ∧ dotted (Text.lower (Text.strip written)) = suffix

instance (written suffix : String) : Decidable (Spells written suffix) :=
  inferInstanceAs (Decidable (_ ∧ _))

theorem dotted_ne_empty (extension : String) : dotted extension ≠ "" := by
  intro empty
  rw [dotted] at empty
  split at empty
  next dot =>
    rw [empty] at dot
    cases dot
  next => simp at empty

theorem Spells.ne_empty (spells : Spells written suffix) : suffix ≠ "" := by
  rw [← spells.2]
  exact dotted_ne_empty _

theorem normalize_of_blank (blank : Text.strip written = "") : normalize written = "" := by
  rw [normalize, blank]
  rfl

/-- The form in which an extension is registered is the suffix that it spells. -/
theorem normalize_of_filled (filled : Text.strip written ≠ "") :
    normalize written = dotted (Text.lower (Text.strip written)) := by
  have lowered : Text.lower (Text.strip written) ≠ "" := fun empty =>
    filled (Text.lower_eq_empty_iff.mp empty)
  rw [normalize, dotted]
  generalize Text.lower (Text.strip written) = t at lowered
  split
  next empty => exact absurd (String.toList_eq_nil_iff.mp empty) lowered
  next rest chars => rw [chars, List.head?_cons, if_pos rfl, ← chars, String.ofList_toList]
  next cs some noDot =>
    rw [if_neg]
    · rw [String.ofList_cons, String.ofList_toList]
      rfl
    · intro dot
      obtain ⟨rest, chars⟩ := List.head?_eq_some_iff.mp dot
      exact noDot rest chars

/-! ## One registration -/

theorem register_eq (r : Registry) (written : String) (e : Extractor) :
    r.register written e =
      if Text.strip written = "" then .error .emptyExtension
      else .ok (r.put (dotted (Text.lower (Text.strip written))) e) := by
  by_cases blank : Text.strip written = ""
  · rw [register, normalize_of_blank blank, if_pos rfl, if_pos blank]
  · rw [register, normalize_of_filled blank, if_neg (dotted_ne_empty _), if_neg blank]

/-- Registering an extension gives it the extractor and leaves the others as they are. -/
theorem mem_put_iff {extension : String} : (suffix, f) ∈ r.put extension e ↔
    suffix = extension ∧ f = e ∨ suffix ≠ extension ∧ (suffix, f) ∈ r := by
  rw [put]
  split
  next known =>
    obtain ⟨old, there, same⟩ := List.any_eq_true.mp known
    rw [List.mem_map]
    constructor
    · rintro ⟨entry, member, changed⟩
      split at changed
      next =>
        cases changed
        exact .inl ⟨rfl, rfl⟩
      next other =>
        cases changed
        exact .inr ⟨other, member⟩
    · rintro (⟨rfl, rfl⟩ | ⟨other, member⟩)
      · exact ⟨old, there, if_pos (of_decide_eq_true same)⟩
      · exact ⟨(suffix, f), member, if_neg other⟩
  next unknown =>
    rw [List.mem_append, List.mem_singleton, Prod.mk.injEq]
    constructor
    · rintro (member | new)
      · refine .inr ⟨?_, member⟩
        rintro rfl
        exact unknown (List.any_eq_true.mpr ⟨_, member, decide_eq_true rfl⟩)
      · exact .inl new
    · rintro (new | ⟨-, member⟩)
      · exact .inr new
      · exact .inl member

/-- The registry behind a registration; one that is refused leaves it as it was. -/
def attempt (r : Registry) (a : String × Extractor) : Registry :=
  match r.register a.1 a.2 with
  | .ok s => s
  | .error _ => r

theorem attempt_of_blank (blank : Text.strip a.1 = "") : r.attempt a = r := by
  rw [attempt, register_eq, if_pos blank]

theorem attempt_of_filled (filled : Text.strip a.1 ≠ "") :
    r.attempt a = r.put (dotted (Text.lower (Text.strip a.1))) a.2 := by
  rw [attempt, register_eq, if_neg filled]

/-- Whether a registration is accepted depends on its extension alone. -/
theorem register_ok_iff : (∃ s, r.register written e = .ok s) ↔ Text.strip written ≠ "" := by
  rw [register_eq]
  by_cases blank : Text.strip written = "" <;> simp [blank]

/-! ## Registrations one after another -/

/-- The registry behind registrations one after another. -/
def run (r : Registry) (calls : List (String × Extractor)) : Registry :=
  calls.foldl attempt r

theorem run_cons : r.run (a :: calls) = (r.attempt a).run calls :=
  List.foldl_cons ..

/-- The last registration that spells a suffix has this extractor. -/
def Latest (history : List (String × Extractor)) (suffix : String) (e : Extractor) : Prop :=
  ∃ before written later, history = before ++ (written, e) :: later ∧ Spells written suffix ∧
    ∀ a ∈ later, ¬ Spells a.1 suffix

/-- A registry has, for each suffix, the extractor of the last registration that spells it. -/
def Records (r : Registry) (history : List (String × Extractor)) : Prop :=
  ∀ suffix e, (suffix, e) ∈ r ↔ Latest history suffix e

theorem latest_nil : ¬ Latest [] suffix e := by
  rintro ⟨before, written, later, split, -⟩
  simp at split

/-- A further registration is the last one for the suffix that it spells. -/
theorem latest_concat : Latest (history ++ [a]) suffix e ↔
    Spells a.1 suffix ∧ a.2 = e ∨ ¬ Spells a.1 suffix ∧ Latest history suffix e := by
  constructor
  · rintro ⟨before, written, later, split, spells, others⟩
    rcases List.eq_nil_or_concat later with rfl | ⟨front, last, rfl⟩
    · obtain ⟨-, same⟩ := List.append_inj' split rfl
      cases same
      exact .inl ⟨spells, rfl⟩
    · rw [List.concat_eq_append, ← List.cons_append, ← List.append_assoc] at split
      obtain ⟨rest, same⟩ := List.append_inj' split rfl
      cases same
      have last := others a (by simp)
      exact .inr ⟨last, before, written, front, rest, spells,
        fun b member => others b (by simp [member])⟩
  · rintro (⟨spells, rfl⟩ | ⟨other, before, written, later, rfl, spells, others⟩)
    · exact ⟨history, a.1, [], rfl, spells, by simp⟩
    · refine ⟨before, written, later ++ [a], by simp, spells, ?_⟩
      intro b member
      rcases List.mem_append.mp member with old | new
      · exact others b old
      · rw [List.mem_singleton.mp new]
        exact other

theorem exists_latest_iff : (∃ e, Latest history suffix e) ↔ ∃ a ∈ history, Spells a.1 suffix := by
  induction history using List.reverseRecOn with
  | nil => simp [latest_nil]
  | append_singleton history a ih =>
      simp only [latest_concat, List.mem_append, List.mem_singleton, or_and_right, exists_or,
        exists_eq_left, exists_and_left, exists_eq', and_true, ih]
      by_cases spells : Spells a.1 suffix <;> simp [spells]

theorem Latest.unique (first : Latest history suffix e) (second : Latest history suffix f) :
    e = f := by
  induction history using List.reverseRecOn with
  | nil => exact absurd first latest_nil
  | append_singleton history a ih =>
      rcases latest_concat.mp first with ⟨spells, rfl⟩ | ⟨other, older⟩
      · rcases latest_concat.mp second with ⟨-, same⟩ | ⟨other, -⟩
        · exact same
        · exact absurd spells other
      · rcases latest_concat.mp second with ⟨spells, -⟩ | ⟨-, older'⟩
        · exact absurd spells other
        · exact ih older older'

theorem Records.attempt (records : r.Records history) (a : String × Extractor) :
    (r.attempt a).Records (history ++ [a]) := by
  intro suffix e
  rw [latest_concat, ← records suffix e]
  by_cases blank : Text.strip a.1 = ""
  · have none : ¬ Spells a.1 suffix := fun spells => spells.1 blank
    simp [attempt_of_blank blank, none]
  · have spells : Spells a.1 suffix ↔ suffix = dotted (Text.lower (Text.strip a.1)) := by
      rw [Spells, and_iff_right blank, eq_comm]
    rw [attempt_of_filled blank, mem_put_iff, spells, eq_comm (a := e)]

theorem Records.run (records : r.Records history) (calls : List (String × Extractor)) :
    (r.run calls).Records (history ++ calls) := by
  induction calls generalizing r history with
  | nil =>
      rw [List.append_nil]
      exact records
  | cons a calls ih =>
      rw [List.append_cons, run_cons]
      exact ih (records.attempt a)

/-- A registry can be built from assignments if none of them is refused, and they are then
registered one after another. -/
theorem ofAssignments_eq_ok_iff : ofAssignments assignments = .ok r ↔
    (∀ a ∈ assignments, Text.strip a.1 ≠ "") ∧ run [] assignments = r := by
  have started : ∀ s : Registry, assignments.foldlM (fun r a => r.register a.1 a.2) s = .ok r ↔
      (∀ a ∈ assignments, Text.strip a.1 ≠ "") ∧ s.run assignments = r := by
    induction assignments with
    | nil =>
        intro s
        simp [run, pure, Except.pure]
    | cons a rest ih =>
        intro s
        rw [List.foldlM_cons, List.forall_mem_cons, register_eq]
        by_cases blank : Text.strip a.1 = ""
        · simp [blank, bind, Except.bind]
        · rw [if_neg blank, run_cons, attempt_of_filled blank, ok_bind, ih]
          simp only [blank, ne_eq, not_false_eq_true, true_and]
  exact started []

theorem records_ofAssignments (built : ofAssignments assignments = .ok r) :
    r.Records assignments := by
  obtain ⟨-, rfl⟩ := ofAssignments_eq_ok_iff.mp built
  have empty : Records [] [] := fun suffix e => by simp [latest_nil]
  exact empty.run assignments

/-- No registry has an empty extension. -/
theorem ofAssignments_filled (built : ofAssignments assignments = .ok r) :
    ∀ entry ∈ r, entry.1 ≠ "" := by
  intro entry member
  obtain ⟨before, written, later, -, spells, -⟩ :=
    (records_ofAssignments built entry.1 entry.2).mp member
  exact spells.ne_empty

/-- Refused registrations can be left out. -/
theorem run_filter (r : Registry) (calls : List (String × Extractor)) :
    r.run (calls.filter fun a => Text.strip a.1 ≠ "") = r.run calls := by
  induction calls generalizing r with
  | nil => rfl
  | cons a calls ih =>
      by_cases blank : Text.strip a.1 = ""
      · rw [List.filter_cons_of_neg (by simp [blank]), run_cons, attempt_of_blank blank, ih]
      · rw [List.filter_cons_of_pos (by simp [blank]), run_cons, run_cons, ih]

/-! ## The formats that are known from the start -/

/-- Assignments of different extensions that are all in normal form are a registry as they are. -/
theorem ofAssignments_eq_self (normal : ∀ a ∈ assignments, normalize a.1 = a.1 ∧ a.1 ≠ "")
    (distinct : (assignments.map Prod.fst).Nodup) :
    ofAssignments assignments = .ok assignments := by
  induction assignments using List.reverseRecOn with
  | nil => rfl
  | append_singleton front last ih =>
      rw [List.map_append, List.nodup_append] at distinct
      have frontNormal : ∀ a ∈ front, normalize a.1 = a.1 ∧ a.1 ≠ "" := fun a member =>
        normal a (List.mem_append_left _ member)
      have lastNormal := normal last (List.mem_append_right _ (List.mem_singleton.mpr rfl))
      have new : ¬(front.any (·.1 = last.1)) = true := by
        intro found
        obtain ⟨a, member, same⟩ := List.any_eq_true.mp found
        exact distinct.2.2 a.1 (List.mem_map_of_mem member) last.1 (List.mem_singleton.mpr rfl)
          (of_decide_eq_true same)
      have built := ih frontNormal distinct.1
      simp only [ofAssignments] at built ⊢
      rw [List.foldlM_append, built, ok_bind, List.foldlM_cons, register, lastNormal.1,
        if_neg lastNormal.2, put, if_neg new]
      rfl

/-- A registry that is given no extensions of its own has the known formats as they are listed. -/
theorem ofAssignments_default : ofAssignments default = .ok default := by
  have normal : ((default.map Prod.fst).all fun s => normalize s = s && s ≠ "") = true := by
    decide +kernel
  apply ofAssignments_eq_self
  · intro a member
    simpa using List.all_eq_true.mp normal a.1 (List.mem_map_of_mem member)
  · decide +kernel

/-! ## Files -/

theorem Records.lookup_eq_some_iff (records : r.Records history) :
    r.lookup suffix = some e ↔ Latest history suffix e := by
  rw [← records suffix e]
  constructor
  · intro found
    obtain ⟨before, after, same, -⟩ := List.lookup_eq_some_iff.mp found
    simp [same]
  · intro member
    cases found : r.lookup suffix with
    | none => simpa using List.lookup_eq_none_iff.mp found _ member
    | some f =>
        obtain ⟨before, after, same, -⟩ := List.lookup_eq_some_iff.mp found
        have other : (suffix, f) ∈ r := by simp [same]
        exact congrArg some (((records _ _).mp other).unique ((records _ _).mp member))

theorem mem_extensions_some_iff {capability : String} :
    suffix ∈ r.extensions (some capability) ↔
      ∃ e, (suffix, e) ∈ r ∧ e.capability = capability := by
  simp [extensions]

theorem mem_extensions_none_iff : suffix ∈ r.extensions none ↔ ∃ e, (suffix, e) ∈ r := by
  simp [extensions]

/-- What a registry does after registrations one after another, some of them refused. -/
structure Follows (r : Registry) (history : List (String × Extractor)) : Prop where
  /-- A file has the extractor of the last registration that spells its suffix in lower case. -/
  routed : ∀ p e, r.extractorFor p = .ok e ↔ Latest history p.lowerSuffix e
  /-- The metadata of the file is what this extractor reads. -/
  read : ∀ p e, Latest history p.lowerSuffix e → ∀ reader v cwd,
    (r.lookupMetadata reader v cwd p).outcome =
      (e.extract reader v cwd p).outcome.map MetadataRecord.mapping
  /-- A file without an extractor is of an unsupported type. -/
  unsupported : ∀ p, (¬ ∃ e, Latest history p.lowerSuffix e) →
    r.extractorFor p = .error (.unsupportedType p.lowerSuffix) ∧ ∀ reader v cwd,
      (r.lookupMetadata reader v cwd p).outcome = .error (.unsupportedType p.lowerSuffix)
  /-- The extensions are the suffixes that some registration spells. -/
  spelled : ∀ suffix, suffix ∈ r.extensions none ↔ ∃ a ∈ history, Spells a.1 suffix
  /-- Those of a capability are the suffixes whose last registration has it. -/
  capable : ∀ suffix c, suffix ∈ r.extensions (some c) ↔
    ∃ e, Latest history suffix e ∧ e.capability = c
  /-- All extensions are those of some capability. -/
  union : ∀ suffix, suffix ∈ r.extensions none ↔ ∃ c, suffix ∈ r.extensions (some c)
  /-- A file has an extractor if its suffix in lower case is one of the extensions. -/
  supported : ∀ p, (∃ e, r.extractorFor p = .ok e) ↔ p.lowerSuffix ∈ r.extensions none
  filled : "" ∉ r.extensions none
  /-- A file without a suffix has no extractor. -/
  bare : ∀ p, p.suffix = "" → r.extractorFor p = .error (.unsupportedType "") ∧
    ∀ reader v cwd, (r.lookupMetadata reader v cwd p).outcome = .error (.unsupportedType "")

variable {p : Path}

theorem extractorFor_eq_ok_iff : r.extractorFor p = .ok e ↔ r.lookup p.lowerSuffix = some e := by
  rw [extractorFor]
  cases r.lookup p.lowerSuffix <;> simp

theorem extractorFor_of_lookup (absent : r.lookup p.lowerSuffix = none) :
    r.extractorFor p = .error (.unsupportedType p.lowerSuffix) := by
  rw [extractorFor, absent]

theorem lookupMetadata_of_ok (routed : r.extractorFor p = .ok e) (reader : MediaReader)
    (v : Volume) (cwd : Path) : (r.lookupMetadata reader v cwd p).outcome =
      (e.extract reader v cwd p).outcome.map MetadataRecord.mapping := by
  rw [lookupMetadata, routed, Log.Traced.bind_outcome]
  cases (e.extract reader v cwd p).outcome <;> rfl

theorem lookupMetadata_of_error {failure : Failure} (refused : r.extractorFor p = .error failure)
    (reader : MediaReader) (v : Volume) (cwd : Path) :
    (r.lookupMetadata reader v cwd p).outcome = .error failure := by
  rw [lookupMetadata, refused]
  rfl

/-- A registry that records a history follows it. -/
theorem Records.follows (records : r.Records history) : r.Follows history := by
  have found : ∀ suffix e, r.lookup suffix = some e ↔ Latest history suffix e := fun _ _ =>
    records.lookup_eq_some_iff
  have routed : ∀ p e, r.extractorFor p = .ok e ↔ Latest history p.lowerSuffix e := fun p e =>
    extractorFor_eq_ok_iff.trans (found p.lowerSuffix e)
  have refused : ∀ p : Path, (¬ ∃ e, Latest history p.lowerSuffix e) →
      r.extractorFor p = .error (.unsupportedType p.lowerSuffix) := by
    intro p none
    apply extractorFor_of_lookup
    rw [Option.eq_none_iff_forall_ne_some]
    exact fun e there => none ⟨e, (found _ e).mp there⟩
  have known : ∀ suffix, suffix ∈ r.extensions none ↔ ∃ e, Latest history suffix e := by
    intro suffix
    simp only [mem_extensions_none_iff, records suffix]
  have noSuffix : ¬ ∃ e, Latest history "" e := by
    rw [exists_latest_iff]
    rintro ⟨a, -, spells⟩
    exact spells.ne_empty rfl
  constructor
  case routed => exact routed
  case read => exact fun p e latest => lookupMetadata_of_ok ((routed p e).mpr latest)
  case unsupported =>
    exact fun p none => ⟨refused p none, lookupMetadata_of_error (refused p none)⟩
  case spelled => exact fun suffix => (known suffix).trans exists_latest_iff
  case capable => exact fun suffix c => by simp only [mem_extensions_some_iff, records suffix]
  case union => exact fun suffix => by simp [mem_extensions_some_iff, mem_extensions_none_iff]
  case supported =>
    intro p
    simp only [routed, known]
  case filled => exact fun member => noSuffix ((known "").mp member)
  case bare =>
    intro p none
    have lower : p.lowerSuffix = "" := by
      rw [Path.lowerSuffix, none]
      rfl
    have unknown := refused p (by rwa [lower])
    rw [lower] at unknown
    exact ⟨unknown, lookupMetadata_of_error unknown⟩

/-- Whatever a registry starts with, the formats that are known from the start or assignments of
which none is refused, it follows these and all further registrations. One is accepted if its
extension is not blank, and those that are refused change nothing. -/
theorem run_follows :
    ofAssignments default = .ok default ∧
      (∀ initial, (∃ r, ofAssignments initial = .ok r) ↔ ∀ a ∈ initial, Text.strip a.1 ≠ "") ∧
      (∀ (r : Registry) written e,
        (∃ s, r.register written e = .ok s) ↔ Text.strip written ≠ "") ∧
      ∀ initial r, ofAssignments initial = .ok r → ∀ calls,
        (r.run calls).Follows (initial ++ calls) ∧
          r.run calls = r.run (calls.filter fun a => Text.strip a.1 ≠ "") := by
  refine ⟨ofAssignments_default, ?_, fun r written e => register_ok_iff, ?_⟩
  · intro initial
    simp only [ofAssignments_eq_ok_iff, exists_and_left, exists_eq', and_true]
  · intro initial r built calls
    exact ⟨((records_ofAssignments built).run calls).follows, (run_filter r calls).symm⟩

/-- Registrations for one suffix in several spellings, and a blank one. -/
def respelledCalls : List (String × Extractor) :=
  [(" JPG\t", .wave), ("jpg", .tiff), (" ", .mp3), ("Flac", .aiff), (".Jpg", .asf)]

/-- The last spelling of a suffix counts, and a file without a suffix stays unsupported. -/
theorem run_follows_respelled :
    (default.run respelledCalls).extractorFor ⟨.root, ["a.JPG"]⟩ = .ok .asf ∧
      (default.run respelledCalls).extractorFor ⟨.root, [".jpg"]⟩ =
        .error (.unsupportedType "") ∧
      ".flac" ∈ (default.run respelledCalls).extensions (some "audio") := by
  obtain ⟨follows, -⟩ :=
    run_follows.2.2.2 default default ofAssignments_default respelledCalls
  have jpg : Spells ".Jpg" ".jpg" := by decide +kernel
  have flac : Spells "Flac" ".flac" ∧ ¬ Spells ".Jpg" ".flac" := by decide +kernel
  refine ⟨?_, (follows.bare _ (by decide)).1, ?_⟩
  · apply (follows.routed _ _).mpr
    exact ⟨default ++ respelledCalls.take 4, ".Jpg", [], rfl, jpg, by simp⟩
  · apply (follows.capable _ _).mpr
    refine ⟨.aiff, ⟨default ++ respelledCalls.take 3, "Flac", [(".Jpg", .asf)], rfl, flac.1, ?_⟩,
      rfl⟩
    simpa using flac.2

end Registry

end MediaNaming
