import MediaNaming.Proofs.Metadata.Routing
import MediaNaming.Proofs.Plan.Completion
import MediaNaming.Proofs.Rename.Completion
import MediaNaming.Proofs.Rename.Repetition
import MediaNaming.Proofs.Text.Split
/-!
# Generated names are bare names

A generated name is the filled scheme, cleaned, with the suffix of the file behind it. A file is
planned only if its suffix is a registered extension, so the suffix is a dot with some text and
cleaning leaves it alone. The name can therefore not lead out of its directory, whatever the
literals and the metadata are. Of all that a renaming demands of a name it can only miss one
thing: it may hold a null character that the scheme, the metadata or the substitute has brought.
-/

namespace MediaNaming

open Log

/-! ## Texts without slashes -/

/-- A text with another character than dots is no directory of its own. -/
theorem Path.ne_dots {s : String} {c : Char} (member : c ∈ s.toList) (other : c ≠ '.') :
    s ≠ "" ∧ s ≠ "." ∧ s ≠ ".." := by
  constructor
  · intro empty
    rw [empty] at member
    cases member
  · constructor
    · intro dot
      rw [dot] at member
      exact other (List.mem_singleton.mp member)
    · intro up
      have chars : s.toList = ['.', '.'] := by
        rw [up]
        rfl
      rw [chars] at member
      simp [other] at member

/-- The characters of a suffix come from the name. -/
theorem Path.mem_suffixOf {cs : List Char} {c : Char} (member : c ∈ suffixOf cs) : c ∈ cs := by
  simp only [suffixOf] at member
  split at member
  next first second others back =>
    split at member
    next => cases member
    next =>
      rcases List.mem_cons.mp member with dot | later
      · -- what the ending stops at is a dot
        have stops := List.head?_dropWhile_not (fun d => decide (d ≠ '.')) cs.reverse
        have there : first ∈ cs.reverse.dropWhile (· ≠ '.') := by
          rw [back]
          exact List.mem_cons_self
        rw [back] at stops
        have same : first = '.' := by simpa using stops
        rw [dot, ← same]
        exact List.mem_reverse.mp ((List.dropWhile_sublist _).subset there)
      · have inBack := (List.takeWhile_sublist _).subset (List.mem_reverse.mp later)
        exact List.mem_reverse.mp inBack
  next => cases member

/-- The suffix of the path of a file holds no null character. -/
theorem Path.hasNull_suffix {p : Path} (clean : hasNull p.text = false) :
    hasNull p.suffix = false := by
  rw [← Bool.not_eq_true] at clean ⊢
  intro null
  apply clean
  rw [hasNull_text]
  have there : Char.ofNat 0 ∈ suffixOf p.name.toList := by
    simpa [hasNull, suffix] using null
  have inName := mem_suffixOf there
  cases last : p.parts.getLast? with
  | none =>
      rw [name, last] at inName
      cases inName
  | some part =>
      rw [name, last] at inName
      exact ⟨part, List.mem_of_getLast? last, by simpa [hasNull] using inName⟩

/-! ## Cleaned texts -/

namespace Substitute

variable {sub : Substitute}

/-- A cleaned text has the legal characters of the text, and the substitute if there are others. -/
theorem mem_clean_iff {s : String} {c : Char} : c ∈ (sub.clean s).toList ↔
    (c ∈ s.toList ∧ isIllegal c = false) ∨ (c = sub.char ∧ ∃ d ∈ s.toList, isIllegal d = true) := by
  rw [clean, String.toList_ofList, cleanChars, List.mem_map]
  constructor
  · intro made
    obtain ⟨d, member, same⟩ := made
    simp only [cleanChar] at same
    split at same
    next illegal => exact Or.inr ⟨same.symm, d, member, illegal⟩
    next legal =>
      subst same
      exact Or.inl ⟨member, by simpa using legal⟩
  · intro either
    rcases either with ⟨member, legal⟩ | ⟨same, d, member, illegal⟩
    · exact ⟨c, member, by simp [cleanChar, legal]⟩
    · exact ⟨d, member, by simp [cleanChar, illegal, same]⟩

/-- Cleaning leaves no illegal character. -/
theorem clean_legal {s : String} {c : Char} (member : c ∈ (sub.clean s).toList) :
    isIllegal c = false := by
  rcases mem_clean_iff.mp member with ⟨-, legal⟩ | ⟨same, -⟩
  · exact legal
  · rw [same]
    exact sub.legal

theorem clean_append_legal {s ending : String} (legal : ∀ c ∈ ending.toList, isIllegal c = false) :
    sub.clean (s ++ ending) = sub.clean s ++ ending := by
  rw [clean, String.toList_append, cleanChars_append, cleanChars_of_legal legal,
    String.ofList_append, String.ofList_toList]
  rfl

end Substitute

/-! ## Registered extensions -/

namespace Registry

variable {r : Registry} {assignments : List (String × Extractor)}

/-- The suffix of a file of a registered format is not empty, and all its characters are legal if
those of all registered extensions are. -/
theorem lookup_suffix (built : ofAssignments assignments = .ok r)
    (legal : ∀ entry ∈ r, ∀ c ∈ entry.1.toList, isIllegal c = false) {reader : MediaReader}
    {v : Volume} {cwd p : Path} {metadata : Metadata}
    (found : (r.lookupMetadata reader v cwd p).outcome = .ok metadata) :
    p.suffix ≠ "" ∧ ∀ c ∈ p.suffix.toList, isIllegal c = false := by
  simp only [lookupMetadata] at found
  split at found
  next => cases found
  next e routed =>
    have known := extractorFor_ok routed
    have filled : p.lowerSuffix ≠ "" := ofAssignments_filled built (p.lowerSuffix, e) known
    exact Path.suffix_legal filled (legal (p.lowerSuffix, e) known)

end Registry

/-! ## Filled schemes -/

namespace Planner

variable {room : Nat} {metadata : Metadata} {scheme rest : Scheme} {text : String}

/-- The texts that a filled scheme is made of: its literals, and the texts of the values that its
keys stand for. -/
inductive Piece (room : Nat) (metadata : Metadata) (scheme : Scheme) : String → Prop where
  | literal {s : String} (listed : .literal s ∈ scheme) : Piece room metadata scheme s
  | key {name s : String} (listed : .key name ∈ scheme)
      (written : Tag.plainText room (metadata.value name) = .ok s) : Piece room metadata scheme s

theorem piece_literal_iff {s piece : String} : Piece room metadata (.literal s :: rest) piece ↔
    piece = s ∨ Piece room metadata rest piece := by
  constructor
  · intro made
    cases made with
    | literal listed =>
        rcases List.mem_cons.mp listed with same | later
        · cases same
          exact Or.inl rfl
        · exact Or.inr (.literal later)
    | key listed written => exact Or.inr (.key (by simpa using listed) written)
  · intro either
    rcases either with same | later
    · rw [same]
      exact .literal List.mem_cons_self
    · cases later with
      | literal listed => exact .literal (List.mem_cons_of_mem _ listed)
      | key listed written => exact .key (List.mem_cons_of_mem _ listed) written

theorem piece_key_iff {name s piece : String}
    (written : Tag.plainText room (metadata.value name) = .ok s) :
    Piece room metadata (.key name :: rest) piece ↔ piece = s ∨ Piece room metadata rest piece := by
  constructor
  · intro made
    cases made with
    | literal listed => exact Or.inr (.literal (by simpa using listed))
    | key listed writtenToo =>
        rcases List.mem_cons.mp listed with same | later
        · cases same
          rw [written] at writtenToo
          cases writtenToo
          exact Or.inl rfl
        · exact Or.inr (.key later writtenToo)
  · intro either
    rcases either with same | later
    · rw [same]
      exact .key List.mem_cons_self written
    · cases later with
      | literal listed => exact .literal (List.mem_cons_of_mem _ listed)
      | key listed writtenToo => exact .key (List.mem_cons_of_mem _ listed) writtenToo

/-- A text in front of what is left. -/
theorem map_append_ok_iff {x : Except Failure Filled} {s : String} :
    x.map (Except.map (s ++ ·)) = .ok (.ok text) ↔
      ∃ more, x = .ok (.ok more) ∧ text = s ++ more := by
  cases x with
  | error f => simp [Except.map]
  | ok filled => cases filled <;> simp [Except.map, eq_comm]

theorem fill_literal_ok {s : String}
    (filling : fill room metadata (.literal s :: rest) = .ok (.ok text)) :
    ∃ more, fill room metadata rest = .ok (.ok more) ∧ text = s ++ more := by
  rwa [fill_literal, map_append_ok_iff] at filling

theorem fill_key_ok {name : String}
    (filling : fill room metadata (.key name :: rest) = .ok (.ok text)) :
    ∃ s more, Tag.plainText room (metadata.value name) = .ok s ∧
      fill room metadata rest = .ok (.ok more) ∧ text = s ++ more := by
  cases written : Tag.plainText room (metadata.value name) with
  | error f =>
      rw [fill_key_error written] at filling
      cases filling
  | ok s =>
      by_cases empty : s = ""
      · rw [empty] at written
        rw [fill_key_empty written] at filling
        cases filling
      · rw [fill_key written empty, map_append_ok_iff] at filling
        obtain ⟨more, filled, same⟩ := filling
        exact ⟨s, more, rfl, filled, same⟩

/-- A filled scheme has the characters of its pieces. -/
theorem mem_fill_iff (filling : fill room metadata scheme = .ok (.ok text)) {c : Char} :
    c ∈ text.toList ↔ ∃ piece, Piece room metadata scheme piece ∧ c ∈ piece.toList := by
  induction scheme generalizing text with
  | nil =>
      cases filling
      constructor
      · intro impossible
        cases impossible
      · intro found
        obtain ⟨piece, made, -⟩ := found
        cases made with
        | literal listed => cases listed
        | key listed written => cases listed
  | cons token rest ih =>
      cases token with
      | literal s =>
          obtain ⟨more, filled, same⟩ := fill_literal_ok filling
          rw [same, String.toList_append, List.mem_append, ih filled]
          simp [piece_literal_iff, or_and_right, exists_or]
      | key name =>
          obtain ⟨s, more, written, filled, same⟩ := fill_key_ok filling
          rw [same, String.toList_append, List.mem_append, ih filled]
          simp [piece_key_iff written, or_and_right, exists_or]

end Planner

/-! ## Names that a renaming accepts -/

namespace Rename

variable {disk : Disk} {v w : Volume} {old new : Value} {o : Outcome}

/-- What is said of a name with a null character. -/
def nullObjection : String :=
  "new file name contains a null byte"

/-- Of a name that leads to no other directory only the null character is asked. -/
theorem bareName_of_inside {name : String} (named : name ≠ "" ∧ name ≠ "." ∧ name ≠ "..")
    (inside : '/' ∉ name.toList) :
    bareName (.text name) =
      if Path.hasNull name then .error nullObjection else .ok name := by
  simp [bareName, named, inside, nullObjection]

/-- A pair of a value that has a wording and a text can always be left out. -/
theorem skip_outcome {name : String} (shown : ∃ s, old.wording = .ok s) (reason : SkipReason)
    (detail : String) :
    (skip v old (.text name) reason detail).outcome =
      .ok (⟨old, .text name, none, some reason, detail⟩, v) := by
  obtain ⟨s, wording⟩ := shown
  simp only [skip, Planner.messageText]
  rw [Log.Traced.ofExcept_bind_outcome _ wording]
  rfl

theorem skip_reason {reason : SkipReason} {detail : String}
    (returned : (skip v old new reason detail).outcome = .ok (o, w)) : o.reason = some reason := by
  obtain ⟨source, -, rest⟩ := Log.Traced.bind_outcome_ok returned
  obtain ⟨target, -, last⟩ := Log.Traced.bind_outcome_ok rest
  cases last
  rfl

/-- A name that has been found acceptable is not called invalid later. -/
theorem renameFile_reason {file : Path} {name : String}
    (returned : (renameFile disk v old file name).outcome = .ok (o, w)) :
    o.reason ≠ some .fileNotValid := by
  unfold renameFile at returned
  dsimp only at returned
  split at returned
  next =>
    rw [skip_reason returned]
    decide
  next =>
    obtain ⟨taken, -, rest⟩ := Log.Traced.bind_outcome_ok returned
    split at rest
    next =>
      rw [skip_reason rest]
      decide
    next =>
      unfold moveFile at rest
      split at rest
      next =>
        split at rest
        next =>
          split at rest
          next => cases rest
          next =>
            rw [skip_reason rest]
            decide
        next => cases rest
      next =>
        cases rest
        simp

end Rename

/-! ## Planned names -/

/-- A piece of a name brings a null character into it if it holds one, or if an illegal character
of it is replaced by one. -/
def Substitute.BringsNull (sub : Substitute) (piece : String) : Prop :=
  Path.hasNull piece = true ∨ sub.char = Char.ofNat 0 ∧ ∃ c ∈ piece.toList, isIllegal c = true

namespace Planner

variable {pl : Planner} {v : Volume} {scheme : Scheme} {key : Value} {file : Path}
  {metadata : Metadata} {name text : String}

/-- What holds of the name that is planned for a file: it ends in the suffix of the file as it is
written, it stays in its directory, and a renaming can object to it only for the null character. -/
structure BareName (pl : Planner) (v : Volume) (scheme : Scheme) (key : Value) (file : Path)
    (metadata : Metadata) (text name : String) : Prop where
  source : key.filePath? = some file
  found : (pl.lookup v (pl.disk.absolute file)).outcome = .ok metadata
  filled : fill pl.room metadata scheme = .ok (.ok text)
  made : name = pl.substitute.clean text ++ file.suffix
  suffixed : text ≠ "" → (Path.ofText name).suffix = file.suffix
  named : name ≠ "" ∧ name ≠ "." ∧ name ≠ ".."
  legal : ∀ c ∈ name.toList, isIllegal c = false
  null : Path.hasNull name = true ↔
    ∃ piece, Piece pl.room metadata scheme piece ∧ pl.substitute.BringsNull piece
  checked : Rename.bareName (.text name) =
    if Path.hasNull name then .error Rename.nullObjection else .ok name
  /-- Where the file is there, a renaming leaves the pair out as invalid exactly for this. -/
  rejected : ∀ disk w, disk.isFile w file = .ok true →
    (Path.hasNull name = true → (Rename.renamePair disk w key (.text name)).outcome =
      .ok (⟨key, .text name, none, some .fileNotValid, Rename.nullObjection⟩, w)) ∧
    (Path.hasNull name = false → ∀ o u,
      (Rename.renamePair disk w key (.text name)).outcome = .ok (o, u) →
        o.reason ≠ some .fileNotValid)

/-- A name has a null character exactly if a piece of it brings one. -/
theorem hasNull_made_iff (filling : fill pl.room metadata scheme = .ok (.ok text))
    (clean : Path.hasNull file.suffix = false) :
    Path.hasNull (pl.substitute.clean text ++ file.suffix) = true ↔
      ∃ piece, Piece pl.room metadata scheme piece ∧ pl.substitute.BringsNull piece := by
  have legal : isIllegal (Char.ofNat 0) = false := by decide
  have noSuffix : Char.ofNat 0 ∉ file.suffix.toList := by
    simpa [Path.hasNull] using clean
  rw [Path.hasNull, List.contains_iff_mem, String.toList_append, List.mem_append,
    Substitute.mem_clean_iff]
  simp only [noSuffix, or_false, legal, and_true, Substitute.BringsNull, Path.hasNull,
    List.contains_iff_mem]
  constructor
  · intro either
    rcases either with there | ⟨same, d, there, illegal⟩
    · obtain ⟨piece, made, member⟩ := (mem_fill_iff filling).mp there
      exact ⟨piece, made, Or.inl member⟩
    · obtain ⟨piece, made, member⟩ := (mem_fill_iff filling).mp there
      exact ⟨piece, made, Or.inr ⟨same.symm, d, member, illegal⟩⟩
  · intro brought
    obtain ⟨piece, made, either⟩ := brought
    rcases either with there | ⟨same, d, there, illegal⟩
    · exact Or.inl ((mem_fill_iff filling).mpr ⟨piece, made, there⟩)
    · exact Or.inr ⟨same.symm, d, (mem_fill_iff filling).mpr ⟨piece, made, there⟩, illegal⟩

theorem Resolved.bareName (how : Resolved pl v scheme key file metadata name)
    (suffixed : file.suffix ≠ "") (legal : ∀ c ∈ file.suffix.toList, isIllegal c = false)
    (clean : Path.hasNull file.text = false) :
    ∃ text, BareName pl v scheme key file metadata text name := by
  obtain ⟨text, filling, cleaned⟩ := how.filled
  have made : name = pl.substitute.clean text ++ file.suffix := by
    rw [cleaned, Substitute.clean_append_legal legal]
  have nameLegal : ∀ c ∈ name.toList, isIllegal c = false := by
    intro c member
    rw [cleaned] at member
    exact Substitute.clean_legal member
  have named : name ≠ "" ∧ name ≠ "." ∧ name ≠ ".." := by
    rcases Path.suffixOf_cases file.name.toList with none | ⟨ending, notLast, noDot, found⟩
    · rw [Path.suffix, none] at suffixed
      exact absurd rfl suffixed
    · obtain ⟨c, others, same⟩ := List.exists_cons_of_ne_nil notLast
      have inSuffix : c ∈ file.suffix.toList := by
        rw [Path.suffix, String.toList_ofList, found, same]
        simp
      have other : c ≠ '.' := by
        intro dot
        rw [same, dot] at noDot
        exact noDot List.mem_cons_self
      apply Path.ne_dots _ other
      rw [made, String.toList_append]
      exact List.mem_append_right _ inSuffix
  have inside : '/' ∉ name.toList := by
    intro slash
    have illegal : isIllegal '/' = true := by decide
    rw [nameLegal '/' slash] at illegal
    cases illegal
  have checked := Rename.bareName_of_inside named inside
  refine ⟨text, {
    source := how.source
    found := how.found
    filled := filling
    made := made
    suffixed := ?_
    named := named
    legal := nameLegal
    null := by rw [made]; exact hasNull_made_iff filling (Path.hasNull_suffix clean)
    checked := checked
    rejected := ?_ }⟩
  · intro filled
    rw [Path.ofText_of_no_slash named.1 named.2.1 inside]
    have chars : Path.suffixOf (pl.substitute.clean (text ++ file.suffix)).toList =
        file.suffix.toList := Substitute.suffixOf_clean filled suffixed legal
    rw [← cleaned] at chars
    rw [Path.suffix, Path.name, List.getLast?_singleton, Option.getD_some, chars,
      String.ofList_toList]
  · intro disk w isFile
    constructor
    · intro null
      simp only [Rename.renamePair, how.source]
      rw [Traced.ofExcept_bind_outcome _ isFile]
      simp only [↓reduceIte, checked, null]
      exact Rename.skip_outcome (Value.wording_of_filePath? how.source) _ _
    · intro fine o u returned
      simp only [Rename.renamePair, how.source] at returned
      rw [Traced.ofExcept_bind_outcome _ isFile] at returned
      simp only [↓reduceIte, checked, fine] at returned
      exact Rename.renameFile_reason returned

end Planner

namespace Renamer

/-- Every name of a generated plan is a bare name with the suffix of its file, whatever the scheme
and the metadata, if the extensions that the metadata is looked up by have no illegal
character. -/
theorem generate_bareName {r : Renamer} {assignments : List (String × Extractor)}
    {registry : Registry} {reader : MediaReader} {v : Volume} {cwd : Path} {paths scheme : Value}
    {room : Nat} {plan : MediaNaming.Plan} {entry : Value × Value}
    (built : Registry.ofAssignments assignments = .ok registry)
    (legal : ∀ extension ∈ registry.map Prod.fst, ∀ c ∈ extension.toList, isIllegal c = false)
    (wf : v.WellFormed) (working : cwd.IsWorkingDirectory)
    (inside : v.entry? cwd.place = some .directory)
    (planned : (r.generate (Disk.direct cwd) (fun v p => registry.lookupMetadata reader v cwd p)
      room v paths scheme).1.outcome = .ok plan)
    (member : entry ∈ plan.entries) :
    ∃ tokens name file metadata text, r.schemeFor scheme = .ok tokens ∧ entry.2 = .text name ∧
      Planner.BareName
        (r.planner (Disk.direct cwd) (fun v p => registry.lookupMetadata reader v cwd p) room) v
        tokens entry.1 file metadata text name := by
  obtain ⟨tokens, name, chosen, given, resolved⟩ := mem_generate planned member
  obtain ⟨-, file, metadata, how⟩ := Planner.resolve_ok resolved
  have found : (registry.lookupMetadata reader v cwd (Path.absolute cwd file)).outcome =
      .ok metadata := how.found
  have isFile : v.isFile cwd file = true := Except.ok.inj how.isFile
  obtain ⟨l, id, reached, there⟩ := Volume.find_of_isFile isFile
  -- the file is looked up by its absolute path, which has the same suffix
  have suffix : (Path.absolute cwd file).suffix = file.suffix := by
    rw [Path.suffix, Path.suffix, Volume.name_absolute wf working inside reached there]
  have registered := Registry.lookup_suffix built
    (fun known listed => legal known.1 (List.mem_map_of_mem listed)) found
  rw [suffix] at registered
  obtain ⟨text, bare⟩ := how.bareName registered.1 registered.2 (Rename.clean_of_isFile isFile)
  exact ⟨tokens, name, file, metadata, text, chosen, given, bare⟩

/-- The entry that is planned for the photo is its path with the bare name `b.jpg`, which a
renaming accepts and which keeps the suffix. -/
theorem generate_bareName_jpegPhoto :
    let lookup := Registry.knownLookup (fun _ => Media.blank) ⟨.root, []⟩
    let r := Rename.constantRenamer
    Registry.ofAssignments Registry.default = .ok Registry.default ∧
      ∃ plan, (r.generate (Disk.direct ⟨.root, []⟩) lookup 1000 Rename.jpegPhoto
          (.list [.path ⟨.root, ["a.jpg"]⟩]) .null).1.outcome = .ok plan ∧
        (.path ⟨.root, ["a.jpg"]⟩, .text "b.jpg") ∈ plan.entries ∧
        (∃ metadata, Planner.BareName (r.planner (Disk.direct ⟨.root, []⟩) lookup 1000)
          Rename.jpegPhoto r.scheme (.path ⟨.root, ["a.jpg"]⟩) ⟨.root, ["a.jpg"]⟩ metadata "b"
          "b.jpg") ∧
        Rename.bareName (.text "b.jpg") = .ok "b.jpg" ∧
          (Path.ofText "b.jpg").suffix = ".jpg" := by
  intro lookup r
  have built := Registry.ofAssignments_default
  have legal : ∀ extension ∈ Registry.default.map Prod.fst, ∀ c ∈ extension.toList,
      isIllegal c = false := by
    intro extension listed
    obtain ⟨known, member, same⟩ := List.mem_map.mp listed
    rw [← same]
    exact (Registry.default_extension member).2
  have wf : Rename.jpegPhoto.WellFormed := by decide
  obtain ⟨tokens, name, file, metadata, text, chosen, given, bare⟩ :=
    generate_bareName built legal wf (by decide) rfl Rename.jpegPhoto_planned List.mem_cons_self
  cases chosen
  cases given
  cases bare.source
  have filled : Except.ok (Except.ok "b") = Except.ok (Except.ok text) := bare.filled
  cases filled
  refine ⟨built, _, Rename.jpegPhoto_planned, List.mem_cons_self, ⟨metadata, bare⟩, ?_, ?_⟩
  · rw [bare.checked]
    rfl
  · have suffix : Path.suffix ⟨.root, ["a.jpg"]⟩ = ".jpg" := by decide +kernel
    rw [← suffix]
    exact bare.suffixed (by decide)

end Renamer

end MediaNaming
