import MediaNaming.Proofs.Plan.BareNames
/-!
# What a name is made of

The name of a file whose metadata is known, said without following how it is found: the texts of
the tokens in order, the suffix behind them, and the substitute in the place of each illegal
character; or else the first key that has no text. Nothing but the values of the keys in the
scheme counts.
-/

namespace MediaNaming

/-- A text is another one with the substitute in the place of each illegal character. -/
def Substitute.Cleans (sub : Substitute) (s name : String) : Prop :=
  List.Forall₂ (fun c d => (isIllegal c = true → d = sub.char) ∧ (isIllegal c = false → d = c))
    s.toList name.toList

namespace Substitute

variable {sub : Substitute}

theorem forall₂_cleanChars_iff {cs ds : List Char} :
    List.Forall₂ (fun c d => (isIllegal c = true → d = sub.char) ∧
      (isIllegal c = false → d = c)) cs ds ↔ ds = sub.cleanChars cs := by
  induction cs generalizing ds with
  | nil =>
      rw [List.forall₂_nil_left_iff]
      rfl
  | cons c cs ih =>
      rw [List.forall₂_cons_left_iff]
      simp only [ih, cleanChars, List.map_cons, cleanChar]
      cases isIllegal c <;> simp

theorem cleans_iff {s name : String} : sub.Cleans s name ↔ name = sub.clean s := by
  rw [Cleans, forall₂_cleanChars_iff, clean, ← String.toList_inj, String.toList_ofList]

/-- Cleaning keeps the length, so it empties no text. -/
theorem clean_eq_empty_iff {s : String} : sub.clean s = "" ↔ s = "" := by
  rw [clean, ← String.toList_inj, String.toList_ofList, cleanChars]
  simp

end Substitute

namespace Planner

open Log

variable {pl : Planner} {v : Volume} {scheme rest : Scheme} {path : Value} {file : Path}
  {metadata other : Metadata} {name k s c : String} {f : Failure} {r : Resolution} {room : Nat}

/-! ## Tokens -/

/-- The metadata has no text for a key: there is no value, or null, or one whose text is empty. -/
def Lacks (room : Nat) (metadata : Metadata) (k : String) : Prop :=
  metadata.lookup k = none ∨ metadata.lookup k = some .null ∨
    ∃ x, metadata.lookup k = some x ∧ Tag.plainText room x = .ok ""

/-- The text of a token. A key has one only if it is not empty. -/
inductive Spells (room : Nat) (metadata : Metadata) : Token → String → Prop where
  | literal (s : String) : Spells room metadata (.literal s) s
  | key {name s : String} (written : Tag.plainText room (metadata.value name) = .ok s)
      (filled : s ≠ "") : Spells room metadata (.key name) s

theorem lacks_iff : Lacks room metadata k ↔ Tag.plainText room (metadata.value k) = .ok "" := by
  unfold Lacks Metadata.value
  cases metadata.lookup k with
  | none => simp [Tag.plainText]
  | some x =>
      simp only [reduceCtorEq, Option.some.injEq, false_or, Option.getD_some]
      constructor
      · rintro (rfl | ⟨y, rfl, written⟩)
        · rfl
        · exact written
      · intro written
        exact Or.inr ⟨x, rfl, written⟩

/-! ## Schemes -/

/-- The texts of all tokens of a scheme, in order. -/
abbrev Spelled (room : Nat) (metadata : Metadata) (scheme : Scheme) (texts : List String) : Prop :=
  List.Forall₂ (Spells room metadata) scheme texts

/-- The first token without a text is this key. -/
inductive Misses (room : Nat) (metadata : Metadata) : Scheme → String → Prop where
  | here {k : String} {rest : Scheme} (lacks : Lacks room metadata k) :
      Misses room metadata (.key k :: rest) k
  | later {token : Token} {s k : String} {rest : Scheme} (spells : Spells room metadata token s)
      (misses : Misses room metadata rest k) : Misses room metadata (token :: rest) k

theorem map_append_missing_iff {x : Except Failure Filled} :
    x.map (Except.map (s ++ ·)) = .ok (.error k) ↔ x = .ok (.error k) := by
  cases x with
  | error f => simp [Except.map]
  | ok filled => cases filled <;> simp [Except.map]

/-- What filling in a scheme does at a token that has a text. -/
theorem fill_spells {token : Token} (spells : Spells room metadata token s) :
    fill room metadata (token :: rest) = (fill room metadata rest).map (Except.map (s ++ ·)) := by
  cases spells with
  | literal => exact fill_literal
  | key written filled => exact fill_key written filled

theorem Spells.written (spells : Spells room metadata (.key name) s) :
    Tag.plainText room (metadata.value name) = .ok s ∧ s ≠ "" := by
  cases spells with
  | key written filled => exact ⟨written, filled⟩

theorem Spells.unique {token : Token} {t : String} (spells : Spells room metadata token s)
    (again : Spells room metadata token t) : t = s := by
  cases spells with
  | literal =>
      cases again
      rfl
  | key written filled => exact Except.ok.inj (again.written.1.symm.trans written)

theorem Spells.not_lacks (spells : Spells room metadata (.key name) s) :
    ¬Lacks room metadata name := by
  obtain ⟨written, filled⟩ := spells.written
  rw [lacks_iff, written]
  simpa using filled

/-- A token has a text, or is a key that lacks one, or one whose value cannot be written. -/
theorem token_cases (room : Nat) (metadata : Metadata) (token : Token) :
    (∃ s, Spells room metadata token s) ∨ (∃ name, token = .key name ∧ Lacks room metadata name) ∨
      ∃ name f, token = .key name ∧ Tag.plainText room (metadata.value name) = .error f := by
  cases token with
  | literal s => exact Or.inl ⟨s, .literal s⟩
  | key name =>
      cases written : Tag.plainText room (metadata.value name) with
      | error f => exact Or.inr (Or.inr ⟨name, f, rfl, written⟩)
      | ok s =>
          by_cases empty : s = ""
          · rw [empty] at written
            exact Or.inr (Or.inl ⟨name, rfl, lacks_iff.mpr written⟩)
          · exact Or.inl ⟨s, .key written empty⟩

theorem spelled_cons_iff {token : Token} (spells : Spells room metadata token s) :
    (∃ texts, Spelled room metadata (token :: rest) texts ∧ c = String.join texts) ↔
      ∃ more, (∃ texts, Spelled room metadata rest texts ∧ more = String.join texts) ∧
        c = s ++ more := by
  constructor
  · rintro ⟨texts, spelled, rfl⟩
    cases spelled with
    | cons first others =>
        rw [spells.unique first, String.join_cons]
        exact ⟨_, ⟨_, others, rfl⟩, rfl⟩
  · rintro ⟨more, ⟨texts, spelled, rfl⟩, rfl⟩
    exact ⟨s :: texts, .cons spells spelled, String.join_cons.symm⟩

/-- A scheme is filled in exactly if every token has a text, and then with these. -/
theorem fill_ok_iff : fill room metadata scheme = .ok (.ok c) ↔
    ∃ texts, Spelled room metadata scheme texts ∧ c = String.join texts := by
  induction scheme generalizing c with
  | nil =>
      constructor
      · intro filled
        cases filled
        exact ⟨[], .nil, rfl⟩
      · rintro ⟨texts, spelled, rfl⟩
        cases spelled
        rfl
  | cons token rest ih =>
      rcases token_cases room metadata token with
        ⟨s, spells⟩ | ⟨name, rfl, lacks⟩ | ⟨name, f, rfl, untold⟩
      · rw [fill_spells spells, map_append_ok_iff, spelled_cons_iff spells]
        simp only [ih]
      · rw [fill_key_empty (lacks_iff.mp lacks)]
        constructor
        · intro impossible
          cases impossible
        · rintro ⟨texts, spelled, -⟩
          cases spelled with
          | cons first => exact absurd lacks first.not_lacks
      · rw [fill_key_error untold]
        constructor
        · intro impossible
          cases impossible
        · rintro ⟨texts, spelled, -⟩
          cases spelled with
          | cons first =>
              rw [first.written.1] at untold
              cases untold

/-- A key is reported as missing exactly if it is the first token without a text. -/
theorem fill_missing_iff :
    fill room metadata scheme = .ok (.error k) ↔ Misses room metadata scheme k := by
  induction scheme with
  | nil =>
      constructor
      · intro impossible
        cases impossible
      · intro misses
        cases misses
  | cons token rest ih =>
      rcases token_cases room metadata token with
        ⟨s, spells⟩ | ⟨name, rfl, lacks⟩ | ⟨name, f, rfl, untold⟩
      · rw [fill_spells spells, map_append_missing_iff, ih]
        constructor
        · exact .later spells
        · intro misses
          cases misses with
          | here lacks => exact absurd lacks spells.not_lacks
          | later _ misses => exact misses
      · rw [fill_key_empty (lacks_iff.mp lacks)]
        constructor
        · intro same
          cases same
          exact .here lacks
        · intro misses
          cases misses with
          | here => rfl
          | later spells => exact absurd lacks spells.not_lacks
      · rw [fill_key_error untold]
        constructor
        · intro impossible
          cases impossible
        · intro misses
          cases misses with
          | here lacks =>
              rw [lacks_iff.mp lacks] at untold
              cases untold
          | later spells =>
              rw [spells.written.1] at untold
              cases untold

/-- Only the values of the keys in the scheme count. -/
theorem fill_congr
    (agree : ∀ name, Token.key name ∈ scheme → other.value name = metadata.value name) :
    fill room other scheme = fill room metadata scheme := by
  induction scheme with
  | nil => rfl
  | cons token rest ih =>
      have later := ih fun name listed => agree name (List.mem_cons_of_mem token listed)
      cases token with
      | literal s => rw [fill_literal, fill_literal, later]
      | key name => rw [fill, fill, agree name List.mem_cons_self, later]

/-! ## Names -/

/-- What a name is by its definition, once its file and the metadata of it are known: the cleaned
texts of the tokens with the suffix behind them, or the reason why there is none. -/
inductive Answer (room : Nat) (sub : Substitute) (metadata : Metadata) (scheme : Scheme)
    (path : Value) (file : Path) : Resolution → Prop where
  | missing {k : String} (misses : Misses room metadata scheme k) :
      Answer room sub metadata scheme path file
        (.skipped ⟨path, .missingMetadata, "no value for metadata key", some k⟩)
  | empty {texts : List String} (spelled : Spelled room metadata scheme texts)
      (nothing : String.join texts ++ file.suffix = "") :
      Answer room sub metadata scheme path file
        (.skipped ⟨path, .emptyName, "scheme produced an empty name", none⟩)
  | named {texts : List String} {name : String} (spelled : Spelled room metadata scheme texts)
      (something : String.join texts ++ file.suffix ≠ "")
      (cleaned : sub.Cleans (String.join texts ++ file.suffix) name) :
      Answer room sub metadata scheme path file (.named path name)

theorem nameFrom_missing (textual : path.IsPathInput)
    (filling : fill pl.room metadata scheme = .ok (.error k)) :
    (pl.nameFrom scheme path file metadata).outcome =
      .ok (.skipped ⟨path, .missingMetadata, "no value for metadata key", some k⟩) := by
  rw [nameFrom, Traced.ofExcept_bind_outcome _ filling]
  exact skip_outcome textual _ _ _

theorem nameFrom_filled (textual : path.IsPathInput)
    (filling : fill pl.room metadata scheme = .ok (.ok c)) :
    (pl.nameFrom scheme path file metadata).outcome =
      .ok (if c ++ file.suffix = "" then
          .skipped ⟨path, .emptyName, "scheme produced an empty name", none⟩
        else .named path (pl.substitute.clean (c ++ file.suffix))) := by
  obtain ⟨shown, wording⟩ := textual.wording
  rw [nameFrom, Traced.ofExcept_bind_outcome _ filling]
  simp only [Substitute.clean_eq_empty_iff]
  split
  next => exact skip_outcome textual _ _ _
  next =>
    rw [messageText, Traced.ofExcept_bind_outcome _ wording]

/-- The names that are found are those of the definition. -/
theorem nameFrom_ok_iff (textual : path.IsPathInput) :
    (pl.nameFrom scheme path file metadata).outcome = .ok r ↔
      Answer pl.room pl.substitute metadata scheme path file r := by
  constructor
  · intro returned
    cases filling : fill pl.room metadata scheme with
    | error f =>
        rw [nameFrom, Traced.bind_outcome, filling] at returned
        cases returned
    | ok filled =>
        cases filled with
        | error k =>
            rw [nameFrom_missing textual filling] at returned
            cases returned
            exact .missing (fill_missing_iff.mp filling)
        | ok c =>
            obtain ⟨texts, spelled, rfl⟩ := fill_ok_iff.mp filling
            rw [nameFrom_filled textual filling, Except.ok.injEq] at returned
            split at returned
            next nothing =>
              cases returned
              exact .empty spelled nothing
            next something =>
              cases returned
              exact .named spelled something (Substitute.cleans_iff.mpr rfl)
  · intro answer
    cases answer with
    | missing misses => exact nameFrom_missing textual (fill_missing_iff.mpr misses)
    | empty spelled nothing =>
        rw [nameFrom_filled textual (fill_ok_iff.mpr ⟨_, spelled, rfl⟩), if_pos nothing]
    | named spelled something cleaned =>
        rw [nameFrom_filled textual (fill_ok_iff.mpr ⟨_, spelled, rfl⟩), if_neg something,
          Substitute.cleans_iff.mp cleaned]

/-- The outcome for a file whose metadata is found. -/
theorem resolve_of_found (source : path.filePath? = some file)
    (isFile : pl.disk.isFile v file = .ok true)
    (found : (pl.lookup v (pl.disk.absolute file)).outcome = .ok metadata) :
    (pl.resolve v scheme path).outcome =
      (pl.nameFrom scheme path file metadata).outcome := by
  simp only [resolve, source]
  rw [Traced.ofExcept_bind_outcome _ isFile]
  simp only [↓reduceIte, found]
  rfl

/-- Finding the name of a file whose metadata is known comes to what the definition of the name
says, unless the scheme comes to a value that cannot be written: then, and only then, it fails.
Metadata with the same values for the keys of the scheme comes to the same. -/
theorem resolve_answers (source : path.filePath? = some file)
    (isFile : pl.disk.isFile v file = .ok true)
    (found : (pl.lookup v (pl.disk.absolute file)).outcome = .ok metadata) :
    (∀ r, (pl.resolve v scheme path).outcome = .ok r ↔
      Answer pl.room pl.substitute metadata scheme path file r) ∧
    (∀ f, (pl.resolve v scheme path).outcome = .error f ↔
      MeetsObstacle pl.room metadata scheme f) ∧
    (∀ (ql : Planner) (w : Volume) (more : Metadata), ql.substitute = pl.substitute →
      ql.room = pl.room → ql.disk.isFile w file = .ok true →
      (ql.lookup w (ql.disk.absolute file)).outcome = .ok more →
      (∀ name, Token.key name ∈ scheme → more.value name = metadata.value name) →
        (ql.resolve w scheme path).outcome = (pl.resolve v scheme path).outcome) := by
  have textual : path.IsPathInput := Value.isPathInput_of_filePath? source
  rw [resolve_of_found source isFile found]
  refine ⟨fun r => nameFrom_ok_iff textual, fun f => nameFrom_error_iff textual, ?_⟩
  intro ql w more sameSubstitute sameRoom otherIsFile otherFound agree
  rw [resolve_of_found source otherIsFile otherFound, nameFrom, nameFrom, sameRoom,
    fill_congr agree, sameSubstitute]

theorem resolve_answers_photo :
    ((sameForAll (.ok [("n", .text "?")])).resolve Rename.photo [.literal "b", .key "n"]
      (.path ⟨.root, ["a"]⟩)).outcome = .ok (.named (.path ⟨.root, ["a"]⟩) "b_") := by
  have isFile : (sameForAll (.ok [("n", .text "?")])).disk.isFile Rename.photo ⟨.root, ["a"]⟩ =
      .ok true := congrArg Except.ok Rename.photo_isFile
  apply ((resolve_answers rfl isFile rfl).1 _).mpr
  have spelled : Spelled 1000 [("n", .text "?")] [.literal "b", .key "n"] ["b", "?"] :=
    .cons (.literal "b") (.cons (.key rfl (by decide)) .nil)
  exact .named spelled (by decide +kernel) (Substitute.cleans_iff.mpr (by decide +kernel))

/-- A key behind a value that cannot be written has no value, and no record says so. -/
theorem unwritable_hides_missing {x : Value} (obstacle : x.obstacle? 1001 = some f) :
    let metadata : Metadata := [("n", x)]
    ¬Lacks 1000 metadata "n" ∧ Lacks 1000 metadata "k" ∧
      ((sameForAll (.ok metadata)).resolve Rename.photo [.key "n", .key "k"]
        (.path ⟨.root, ["a"]⟩)).outcome = .error f := by
  intro metadata
  have untold : Tag.plainText 1000 (metadata.value "n") = .error f :=
    Tag.plainText_error_iff.mpr obstacle
  refine ⟨?_, Or.inl rfl, ?_⟩
  · rw [lacks_iff, untold]
    exact fun impossible => nomatch impossible
  · have isFile : (sameForAll (.ok metadata)).disk.isFile Rename.photo ⟨.root, ["a"]⟩ =
        .ok true := congrArg Except.ok Rename.photo_isFile
    rw [resolve_of_found rfl isFile rfl]
    exact (nameFrom_error_iff (Or.inr ⟨_, rfl⟩)).mpr (.here obstacle)

/-- Such a value is a number of one digit too many, or a list too many inside one another. -/
theorem longNumber_hides_missing :
    (let metadata : Metadata := [("n", .int Number.firstLong)]
    ¬Lacks 1000 metadata "n" ∧ Lacks 1000 metadata "k" ∧
      ((sameForAll (.ok metadata)).resolve Rename.photo [.key "n", .key "k"]
        (.path ⟨.root, ["a"]⟩)).outcome = .error .numberTooLong) ∧
    (let metadata : Metadata := [("n", .nested 1001)]
    ¬Lacks 1000 metadata "n" ∧ Lacks 1000 metadata "k" ∧
      ((sameForAll (.ok metadata)).resolve Rename.photo [.key "n", .key "k"]
        (.path ⟨.root, ["a"]⟩)).outcome = .error .tooDeep) :=
  ⟨unwritable_hides_missing Value.obstacle?_firstLong,
    unwritable_hides_missing (Value.obstacle?_nested 1000)⟩

end Planner

end MediaNaming
