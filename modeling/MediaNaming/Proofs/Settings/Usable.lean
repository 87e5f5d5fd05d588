import MediaNaming.Proofs.Cli.ChosenScheme
import MediaNaming.Proofs.Settings.Kept
import MediaNaming.Proofs.Toml.Kinds
import MediaNaming.Proofs.Value.Wording
/-!
# Which settings can be used

Loading takes values of any kind. The substitute gives way to its default whatever is wrong with it,
unless the warning itself cannot be written. The scheme gives way only where it counts as nothing:
any other value is read as if it were a text, and reading fails for all that is no text, but for
arrays of plain texts.
-/

namespace MediaNaming

namespace Settings

open Log
open Toml (Held)

variable {s : Settings} {v : Value} {items : List Value} {entries : Entries} {tokens : Scheme}
  {parts : List String} {f : Failure}

/-! ## Schemes from values -/

/-- A text without a brace to interpret. -/
def IsPlain (v : Value) : Prop :=
  ∃ s, v = .text s ∧ isBraces s = false

/-- The values of a document that no scheme is read from: true, all numbers but zero, dates and
times, tables with entries, and arrays with an item that is no plain text. -/
inductive IsUnreadable : Value → Prop where
  | bool : IsUnreadable (.bool true)
  | int {i : Int} (nonzero : i ≠ 0) : IsUnreadable (.int i)
  | float {x : Number.Binary64} (nonzero : x.isZero = false) : IsUnreadable (.float x)
  | moment (m : Moment) : IsUnreadable (.moment m)
  | mapping {entries : Entries} (filled : entries ≠ []) : IsUnreadable (.mapping entries)
  | list {items : List Value} (other : ∃ v ∈ items, ¬ IsPlain v) : IsUnreadable (.list items)

/-- An item of an array is taken just if it is a plain text. -/
theorem itemText_list {index : Nat} {text : String} : itemText (.list items) index = .ok text ↔
    items[index]? = some (.text text) ∧ isBraces text = false := by
  rw [itemText, bind_ok_iff]
  constructor
  · rintro ⟨item, found, taken⟩
    simp only [Tag.item] at found
    split at found
    next w there =>
      cases found
      rw [there]
      split at taken
      next t =>
        split at taken
        next => cases taken
        next plain =>
          cases taken
          exact ⟨rfl, Bool.eq_false_of_not_eq_true plain⟩
      next => cases taken
    next => cases found
  · rintro ⟨there, plain⟩
    refine ⟨.text text, ?_, ?_⟩
    · simp only [Tag.item, there]
    · simp only [plain, Bool.false_eq_true, if_false]
      rfl

/-- The items of an array are taken just if they are plain texts, and then as they are. -/
theorem mapM_itemText_list : (List.range items.length).mapM (itemText (.list items)) = .ok parts ↔
    items = parts.map .text ∧ ∀ s ∈ parts, isBraces s = false := by
  rw [mapM_ok_iff, List.forall₂_iff_get]
  simp only [List.length_range, List.get_eq_getElem, List.getElem_range, itemText_list]
  constructor
  · rintro ⟨same, each⟩
    refine ⟨List.ext_getElem (by simpa using same) ?_, ?_⟩
    · intro i first second
      rw [List.length_map] at second
      have there := (each i first second).1
      rw [List.getElem?_eq_getElem first, Option.some_inj] at there
      rw [there, List.getElem_map]
    · intro s member
      obtain ⟨i, within, rfl⟩ := List.getElem_of_mem member
      exact (each i (same ▸ within) within).2
  · rintro ⟨rfl, plain⟩
    refine ⟨List.length_map .., ?_⟩
    intro i first second
    rw [List.getElem?_map, List.getElem?_eq_getElem second]
    exact ⟨rfl, plain _ (List.getElem_mem second)⟩

theorem readScheme_list : readScheme (.list items) = .ok tokens ↔
    ∃ parts, items = parts.map .text ∧ (∀ s ∈ parts, isBraces s = false) ∧
      tokens = if parts.isEmpty then [] else [.literal (Text.joined "" parts)] := by
  have size : readScheme (.list items) =
      ((List.range items.length).mapM (itemText (.list items)) >>= fun parts =>
        return if parts.isEmpty then [] else [.literal (Text.joined "" parts)]) := rfl
  rw [size, bind_ok_iff]
  constructor
  · rintro ⟨parts, taken, same⟩
    obtain ⟨texts, plain⟩ := mapM_itemText_list.mp taken
    exact ⟨parts, texts, plain, (Except.ok.inj same).symm⟩
  · rintro ⟨parts, texts, plain, rfl⟩
    exact ⟨parts, mapM_itemText_list.mpr ⟨texts, plain⟩, rfl⟩

/-- The keys of a table are texts, so no entry of it is the first one. -/
theorem readScheme_mapping (keys : ∀ e ∈ entries, ∃ s, e.1 = .text s) (filled : entries ≠ []) :
    ∃ f, readScheme (.mapping entries) = .error f := by
  have absent : Entries.get? entries (.int 0) = none := by
    rw [Entries.get?, Option.map_eq_none_iff, List.find?_eq_none]
    intro e member
    obtain ⟨s, key⟩ := keys e member
    rw [key]
    simp [Value.sameKey, Value.number?]
  have first : itemText (.mapping entries) 0 = .error (.missingKey (Number.text 0)) := by
    have item : Tag.item (.mapping entries) 0 = .error (.missingKey (Number.text 0)) := by
      simp only [Tag.item, Int.ofNat_zero, absent]
    rw [itemText, item]
    rfl
  obtain ⟨e, others, rfl⟩ := List.exists_cons_of_ne_nil filled
  have range : readScheme (.mapping (e :: others)) =
      ((List.range (others.length + 1)).mapM (itemText (.mapping (e :: others))) >>= fun parts =>
        return if parts.isEmpty then [] else [.literal (Text.joined "" parts)]) := rfl
  refine ⟨.missingKey (Number.text 0), ?_⟩
  rw [range, List.range_succ_eq_map, List.mapM_cons, first]
  rfl

/-! ## Three kinds of values -/

/-- Plain texts are the items of an array just if each item is one. -/
theorem exists_texts (plain : ∀ v ∈ items, IsPlain v) :
    ∃ parts : List String, items = parts.map .text ∧ ∀ s ∈ parts, isBraces s = false := by
  induction items with
  | nil => exact ⟨[], rfl, List.forall_mem_nil _⟩
  | cons v items ih =>
      rw [List.forall_mem_cons] at plain
      obtain ⟨⟨s, rfl, first⟩, others⟩ := plain
      obtain ⟨parts, rfl, rest⟩ := ih others
      exact ⟨s :: parts, rfl, List.forall_mem_cons.mpr ⟨first, rest⟩⟩

theorem readScheme_of_isUnreadable (held : Held v) (unreadable : IsUnreadable v) :
    v.isTruthy = true ∧ ∃ f, readScheme v = .error f := by
  cases unreadable with
  | bool => exact ⟨rfl, _, rfl⟩
  | int nonzero => exact ⟨decide_eq_true nonzero, _, rfl⟩
  | float nonzero => exact ⟨by rw [Value.isTruthy, nonzero]; rfl, _, rfl⟩
  | moment m => exact ⟨rfl, _, rfl⟩
  | mapping filled =>
      refine ⟨?_, readScheme_mapping held.table.keys filled⟩
      simpa [Value.isTruthy] using filled
  | @list items other =>
      obtain ⟨v, member, other⟩ := other
      constructor
      · simpa [Value.isTruthy] using List.ne_nil_of_mem member
      · cases read : readScheme (.list items) with
        | error f => exact ⟨f, rfl⟩
        | ok tokens =>
            obtain ⟨parts, rfl, plain, -⟩ := readScheme_list.mp read
            obtain ⟨s, inside, rfl⟩ := List.mem_map.mp member
            exact absurd ⟨s, rfl, plain s inside⟩ other

/-- Any other value of a document counts as nothing, or a scheme with tokens is read from it. -/
theorem readScheme_of_readable (held : Held v) (readable : ¬ IsUnreadable v) :
    (v.isTruthy = false ∧ v.holdsLongNumber = false) ∨
      (v.isTruthy = true ∧ ∃ tokens, readScheme v = .ok tokens ∧ tokens ≠ [] ∧
        tokens.isWellFormed = true) := by
  cases held with
  | bool b =>
      cases b with
      | false => exact .inl ⟨rfl, rfl⟩
      | true => exact absurd .bool readable
  | int i =>
      by_cases zero : i = 0
      · left
        rw [zero]
        exact ⟨rfl, Number.isLong_zero⟩
      · exact absurd (.int zero) readable
  | float x =>
      by_cases zero : x.isZero = true
      · left
        rw [Value.isTruthy, zero]
        exact ⟨rfl, rfl⟩
      · exact absurd (.float (Bool.eq_false_of_not_eq_true zero)) readable
  | moment m => exact absurd (.moment m) readable
  | text s =>
      by_cases empty : s = ""
      · left
        rw [empty]
        exact ⟨rfl, rfl⟩
      · right
        refine ⟨decide_eq_true empty, Scheme.parse s, rfl, ?_, Scheme.parseFrom_isWellFormed _ _⟩
        rw [← List.isEmpty_eq_false_iff]
        exact Scheme.parse_isEmpty empty
  | @list items each =>
      by_cases empty : items = []
      · left
        rw [empty]
        exact ⟨rfl, rfl⟩
      · right
        have plain : ∀ v ∈ items, IsPlain v := by
          intro v member
          by_contra other
          exact readable (.list ⟨v, member, other⟩)
        obtain ⟨parts, rfl, texts⟩ := exists_texts plain
        have filled : parts.isEmpty = false := by simpa using empty
        have read := readScheme_list.mpr ⟨parts, rfl, texts, rfl⟩
        rw [filled, if_neg Bool.false_ne_true] at read
        exact ⟨by simpa [Value.isTruthy] using empty, _, read, List.cons_ne_nil _ _, rfl⟩
  | @mapping entries keys values =>
      by_cases empty : entries = []
      · left
        rw [empty]
        exact ⟨rfl, rfl⟩
      · exact absurd (.mapping empty) readable

/-! ## Schemes of settings -/

theorem shownWording_of_short (short : v.holdsLongNumber = false) :
    ∃ text, v.shownWording = .ok text := by
  rw [Value.shownWording]
  cases shown : v.shown? with
  | none =>
      rw [Value.shown?_eq_none_iff, short] at shown
      cases shown
  | some text => exact ⟨text, rfl⟩

/-- A value that counts as nothing gives way to the default. -/
theorem schemeTokens_of_nothing (nothing : s.scheme.isTruthy = false)
    (short : s.scheme.holdsLongNumber = false) :
    s.schemeTokens.outcome = .ok (Scheme.parse defaultScheme) := by
  obtain ⟨text, shown⟩ := shownWording_of_short short
  rw [schemeTokens, nothing, if_neg Bool.false_ne_true, Traced.ofExcept_bind_outcome _ rfl,
    List.isEmpty_nil, if_pos rfl, Traced.ofExcept_bind_outcome _ shown]

theorem schemeTokens_of_read (something : s.scheme.isTruthy = true)
    (read : readScheme s.scheme = .ok tokens) (filled : tokens ≠ []) :
    s.schemeTokens.outcome = .ok tokens := by
  rw [schemeTokens, something, if_pos rfl, Traced.ofExcept_bind_outcome _ read,
    List.isEmpty_eq_false_iff.mpr filled]
  rfl

theorem schemeTokens_of_unread (something : s.scheme.isTruthy = true)
    (unread : readScheme s.scheme = .error f) : s.schemeTokens.outcome = .error f := by
  rw [schemeTokens, something, if_pos rfl, Traced.bind_outcome, unread]
  rfl

/-- From settings of a document a scheme comes out unless it is unreadable, and then one with proper
tokens. -/
theorem schemeTokens_cases (held : Held s.scheme) :
    (IsUnreadable s.scheme ∧ ∃ f, s.schemeTokens.outcome = .error f) ∨
      (¬ IsUnreadable s.scheme ∧ ∃ tokens, s.schemeTokens.outcome = .ok tokens ∧ tokens ≠ [] ∧
        tokens.isWellFormed = true) := by
  by_cases unreadable : IsUnreadable s.scheme
  · left
    obtain ⟨something, f, unread⟩ := readScheme_of_isUnreadable held unreadable
    exact ⟨unreadable, f, schemeTokens_of_unread something unread⟩
  · right
    refine ⟨unreadable, ?_⟩
    rcases readScheme_of_readable held unreadable with
      ⟨nothing, short⟩ | ⟨something, tokens, read, filled, proper⟩
    · refine ⟨_, schemeTokens_of_nothing nothing short, ?_, Scheme.parseFrom_isWellFormed _ _⟩
      rw [← List.isEmpty_eq_false_iff]
      exact Scheme.parse_isEmpty (by decide)
    · exact ⟨tokens, schemeTokens_of_read something read filled, filled, proper⟩

/-! ## Substitutes of settings -/

/-- From any settings a substitute comes out, the configured one or the default, unless the warning
about the configured one cannot be written. -/
theorem substituteCharacter_cases (s : Settings) :
    (∃ sub, s.substituteCharacter.outcome = .ok sub ∧
        acceptedChar? s.substitute = some sub.char) ∨
      (acceptedChar? s.substitute = none ∧ s.substitute.holdsLongNumber = false ∧
        s.substituteCharacter.outcome = .ok .default) ∨
      (acceptedChar? s.substitute = none ∧ s.substitute.holdsLongNumber = true ∧
        ∃ f, s.substituteCharacter.outcome = .error f) := by
  rw [substituteCharacter]
  cases taken : Substitute.ofValue s.substitute with
  | ok sub => exact .inl ⟨sub, rfl, Substitute.ofValue_eq_ok_iff.mp taken⟩
  | error f =>
      have refused := Substitute.ofValue_refused_iff.mp ⟨f, taken⟩
      cases long : s.substitute.holdsLongNumber with
      | false =>
          obtain ⟨text, shown⟩ := shownWording_of_short long
          refine .inr (.inl ⟨refused, rfl, ?_⟩)
          simp only [Traced.ofExcept_bind_outcome _ shown]
      | true =>
          have unshown : s.substitute.shownWording = .error .numberTooLong := by
            rw [Value.shownWording, (Value.shown?_eq_none_iff _).mpr long]
            rfl
          refine .inr (.inr ⟨refused, rfl, .numberTooLong, ?_⟩)
          simp only [Traced.bind_outcome, unshown]
          rfl

/-! ## Settings that have been loaded -/

theorem ofTable_held {table : Entries} (isTable : Toml.IsTable table) :
    Held (ofTable table).scheme := by
  have scheme : (ofTable table).scheme =
      (table.get? (.text "naming_scheme")).getD (.text defaultScheme) := rfl
  rw [scheme]
  cases given : table.get? (.text "naming_scheme") with
  | none => exact .text _
  | some v => exact isTable.get? given

/-- Settings of a file are values of a document. -/
theorem ofFile_held {volume : Volume} {cwd source : Path}
    (read : (ofFile volume cwd source).outcome = .ok s) : Held s.scheme := by
  rw [ofFile] at read
  split at read
  next => cases read
  next =>
    cases read
    exact .text _
  next =>
    split at read
    next =>
      split at read
      next => cases read
      next => cases read
    next bs _ =>
      rw [ofOctets] at read
      split at read
      next => cases read
      next cs _ =>
        split at read
        next => cases read
        next => cases read
        next table found =>
          cases read
          exact ofTable_held (Toml.read_isTable found)

/-- What can be done with settings that have been loaded. A scheme comes out unless the configured
value is unreadable; it has tokens, all of them proper, and is that of the configured text if this
is not empty. A substitute comes out unless the configured value is none and holds a number that is
too long to be written; it is legal, and it is the configured one if that is a substitute and the
default otherwise. -/
theorem loaded_usable_iff {calls : List Cache.Call} {around : Surroundings} {volume : Volume}
    {file : Option Path} {l : Loaded}
    (loaded : ((Cache.empty.run calls).load around volume file).outcome = .ok l) :
    ((∃ f, l.settings.schemeTokens.outcome = .error f) ↔ IsUnreadable l.settings.scheme) ∧
      (∀ tokens, l.settings.schemeTokens.outcome = .ok tokens →
        tokens ≠ [] ∧ tokens.isWellFormed = true ∧
          ∀ t, t ≠ "" → l.settings.scheme = .text t → tokens = Scheme.parse t) ∧
      ((∃ f, l.settings.substituteCharacter.outcome = .error f) ↔
        acceptedChar? l.settings.substitute = none ∧
          l.settings.substitute.holdsLongNumber = true) ∧
      ∀ sub, l.settings.substituteCharacter.outcome = .ok sub →
        isIllegal sub.char = false ∧
          (∀ c, acceptedChar? l.settings.substitute = some c → sub.char = c) ∧
          (acceptedChar? l.settings.substitute = none → sub = .default) := by
  obtain ⟨volume', cwd, read⟩ := Cache.load_ofFile loaded
  have schemes := schemeTokens_cases (ofFile_held read)
  have substitutes := substituteCharacter_cases l.settings
  refine ⟨?_, ?_, ?_, ?_⟩
  · rcases schemes with ⟨unreadable, failed⟩ | ⟨readable, tokens, taken, -⟩
    · exact iff_of_true failed unreadable
    · rw [taken]
      exact iff_of_false (by simp) readable
  · intro tokens taken
    rcases schemes with ⟨-, f, failed⟩ | ⟨-, tokens', taken', filled, proper⟩
    · rw [failed] at taken
      cases taken
    · rw [taken] at taken'
      cases taken'
      refine ⟨filled, proper, ?_⟩
      intro t notEmpty textual
      have given := schemeTokens_text textual
      rw [taken, schemeText, if_neg notEmpty] at given
      exact Except.ok.inj given
  · rcases substitutes with ⟨sub, taken, accepted⟩ | ⟨-, short, taken⟩ | ⟨refused, long, failed⟩
    · rw [taken, accepted]
      simp
    · rw [taken, short]
      simp
    · exact iff_of_true failed ⟨refused, long⟩
  · intro sub taken
    refine ⟨sub.legal, ?_⟩
    rcases substitutes with ⟨sub', taken', accepted⟩ | ⟨refused, -, taken'⟩ | ⟨-, -, f, failed⟩
    · rw [taken] at taken'
      cases taken'
      simp [accepted]
    · rw [taken] at taken'
      cases taken'
      simp [refused]
    · rw [failed] at taken
      cases taken

/-- The name and the number of a document that has this one entry only. -/
def loneNumber? : Except Toml.Flaw Entries → Option (String × Int)
  | .ok [(.text name, .int i)] => some (name, i)
  | _ => none

theorem eq_of_loneNumber? {read : Except Toml.Flaw Entries} {name : String} {i : Int}
    (found : loneNumber? read = some (name, i)) : read = .ok [(.text name, .int i)] := by
  unfold loneNumber? at found
  split at found
  next =>
    cases found
    rfl
  next => cases found

/-- A number for the scheme is loaded as it is. -/
theorem load_number {text : String} {i : Int}
    (document : loneNumber? (Toml.read text.toList) = some ("naming_scheme", i)) :
    ((Cache.empty.run []).load sampleSurroundings (fileTree text) (some ⟨.root, ["c"]⟩)).outcome =
      .ok ⟨⟨.int i, .text defaultSubstitute, .null⟩, ⟨.root, ["c"]⟩, 0⟩ := by
  have read := ofFile_outcome (read?_fileTree text)
  rw [eq_of_loneNumber? document] at read
  exact (Cache.load_eq_ok_iff (.inl rfl)).mpr ⟨.inl rfl, rfl, read, rfl⟩

/-- The number zero counts as nothing. -/
theorem loaded_usable_zero :
    ∃ l, ((Cache.empty.run []).load sampleSurroundings (fileTree "naming_scheme = 0\n")
        (some ⟨.root, ["c"]⟩)).outcome = .ok l ∧
      l.settings.scheme = .int 0 ∧
      (∃ tokens, l.settings.schemeTokens.outcome = .ok tokens ∧ tokens ≠ [] ∧
        tokens.isWellFormed = true) ∧
      ∃ sub, l.settings.substituteCharacter.outcome = .ok sub ∧ sub.char = '_' := by
  have loaded := @load_number "naming_scheme = 0\n" 0 (by decide +kernel)
  refine ⟨_, loaded, rfl, ?_⟩
  obtain ⟨failing, proper, failing', legal⟩ := loaded_usable_iff loaded
  constructor
  · cases outcome : (Settings.mk (.int 0) (.text defaultSubstitute) .null).schemeTokens.outcome with
    | error f =>
        cases failing.mp ⟨f, outcome⟩ with
        | int nonzero => exact absurd rfl nonzero
    | ok tokens =>
        obtain ⟨filled, wellFormed, -⟩ := proper tokens outcome
        exact ⟨tokens, rfl, filled, wellFormed⟩
  · cases outcome : (Settings.mk (.int 0) (.text defaultSubstitute)
        .null).substituteCharacter.outcome with
    | error f => cases (failing'.mp ⟨f, outcome⟩).1
    | ok sub => exact ⟨sub, rfl, (legal sub outcome).2.1 '_' rfl⟩

/-- From any other number no scheme comes out, although it is loaded. -/
theorem numberScheme_fails :
    ∃ l, ((Cache.empty.run []).load sampleSurroundings (fileTree "naming_scheme = 5\n")
        (some ⟨.root, ["c"]⟩)).outcome = .ok l ∧
      l.settings.schemeTokens.outcome = .error (.noLength "int") :=
  ⟨_, @load_number "naming_scheme = 5\n" 5 (by decide +kernel), rfl⟩

end Settings

end MediaNaming
