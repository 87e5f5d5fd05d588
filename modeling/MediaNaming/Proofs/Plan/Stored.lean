import MediaNaming.Proofs.Plan.Spelled
import MediaNaming.Proofs.Renamer.History
import MediaNaming.Proofs.Scheme.RoundTrip
/-!
# Schemes that have been stored as text

A scheme that is written as text and read again need not be the same: empty literals are gone, and
neighbouring ones have become one. What it is filled in with is the same all the same, whatever the
metadata of a file, and so is the key that is reported where a text is missing. So nothing that
planning does, not even what it logs, tells the two schemes apart.
-/

namespace MediaNaming

/-! ## What is written for a scheme -/

namespace Scheme

variable {s : Scheme}

/-- Keys whose names can be told apart from the text around them: no braces in them, and no white
space at their ends. -/
def IsStorable (s : Scheme) : Prop :=
  ∀ name, .key name ∈ s →
    '{' ∉ name.toList ∧ '}' ∉ name.toList ∧ Text.strip name = name

/-- Where every key has a name, these are the names that can stand between braces. -/
theorem isWellFormed_of_storable (named : s.IsNamed) (storable : s.IsStorable) :
    s.isWellFormed = true := by
  apply List.all_eq_true.mpr
  intro token listed
  cases token with
  | literal text => rfl
  | key name =>
      obtain ⟨notOpened, notClosed, stripped⟩ := storable name listed
      exact isKeyName_iff.mpr ⟨named name listed, notOpened, notClosed, stripped⟩

/-- A written scheme is read as the merged one. -/
theorem parse_format (proper : s.isWellFormed = true) : parse (format s) = merge s := by
  have nothing : parseFrom [] [] = [] := (parseFrom_eq_nil_iff [] []).mpr ⟨rfl, rfl⟩
  have joined := parseFrom_formatTokens proper []
  rw [nothing, List.append_nil, List.append_nil] at joined
  rwa [parse, format, String.toList_ofList]

end Scheme

namespace Planner

variable {pl : Planner} {v : Volume} {s t : Scheme} {metadata : Metadata} {room : Nat}

/-! ## Filling in merged schemes -/

/-- Text in front of text that is in front of whatever follows. -/
theorem map_append_append (first second : String) (x : Except Failure Filled) :
    (x.map (Except.map (second ++ ·))).map (Except.map (first ++ ·)) =
      x.map (Except.map (first ++ second ++ ·)) := by
  cases x with
  | error f => rfl
  | ok filled =>
      cases filled with
      | error key => rfl
      | ok rest => simp [Except.map, String.append_assoc]

theorem map_append_empty (x : Except Failure Filled) : x.map (Except.map ("" ++ ·)) = x := by
  cases x with
  | error f => rfl
  | ok filled => cases filled <;> simp [Except.map]

/-- A token that is merged with the tokens behind it is filled in as one in front of them. -/
theorem fill_mergeOnto (room : Nat) (metadata : Metadata) (token : Token) (s : Scheme) :
    fill room metadata (Scheme.mergeOnto token s) = fill room metadata (token :: s) := by
  cases token with
  | key name => rfl
  | literal text =>
      by_cases empty : text = ""
      · rw [empty, Scheme.mergeOnto_empty, fill_literal, map_append_empty]
      · cases s with
        | nil => simp [Scheme.mergeOnto, empty]
        | cons next rest =>
            cases next with
            | key name => simp [Scheme.mergeOnto, empty]
            | literal other =>
                simp only [Scheme.mergeOnto, empty, ↓reduceIte, fill_literal, map_append_append]

theorem fill_cons_congr (token : Token) (same : fill room metadata s = fill room metadata t) :
    fill room metadata (token :: s) = fill room metadata (token :: t) := by
  cases token with
  | literal text => rw [fill_literal, fill_literal, same]
  | key name => rw [fill, fill, same]

/-- Merging changes neither the text that a scheme is filled in with nor the key that is reported
first. -/
theorem fill_merge (room : Nat) (metadata : Metadata) (s : Scheme) :
    fill room metadata s.merge = fill room metadata s := by
  induction s with
  | nil => rfl
  | cons token s ih => rw [Scheme.merge_cons, fill_mergeOnto, fill_cons_congr token ih]

/-! ## Planning with merged schemes -/

/-- Schemes that are filled in alike give every path the same name, or leave it out alike. -/
theorem resolve_congr (alike : ∀ metadata, fill pl.room metadata s = fill pl.room metadata t)
    (path : Value) :
    pl.resolve v s path = pl.resolve v t path := by
  have names : ∀ file metadata, pl.nameFrom s path file metadata =
      pl.nameFrom t path file metadata := by
    intro file metadata
    rw [nameFrom, nameFrom, alike]
  simp only [resolve, names]

theorem sweep_congr (alike : ∀ path, pl.resolve v s path = pl.resolve v t path)
    (paths : List Value) : pl.sweep v s paths = pl.sweep v t paths := by
  induction paths with
  | nil => rfl
  | cons path rest ih => rw [sweep, sweep, alike, ih]

theorem plan_congr (alike : ∀ path, pl.resolve v s path = pl.resolve v t path) (given : Value) :
    pl.plan v s given = pl.plan v t given := by
  have all : ∀ paths, pl.planAll v s paths = pl.planAll v t paths := by
    intro paths
    rw [planAll, planAll, sweep_congr alike]
  cases given with
  | list paths => exact all paths
  | tuple paths => exact all paths
  | _ => rfl

/-- A compiled scheme and what is read from its text come to the same for every path: the same
name, or the same reason, detail and key, with the same records. The same holds of planning as a
whole. -/
theorem resolve_stored (pl : Planner) (v : Volume) {raw : Value}
    (compiled : Scheme.compile raw = .ok s) (storable : s.IsStorable) :
    (∀ path, pl.resolve v (Scheme.parse (Scheme.format s)) path = pl.resolve v s path) ∧
    ∀ given, pl.plan v (Scheme.parse (Scheme.format s)) given = pl.plan v s given := by
  have proper := Scheme.isWellFormed_of_storable (Scheme.compile_named compiled) storable
  have alike : ∀ metadata, fill pl.room metadata (Scheme.parse (Scheme.format s)) =
      fill pl.room metadata s := by
    intro metadata
    rw [Scheme.parse_format proper, fill_merge]
  exact ⟨resolve_congr alike, plan_congr (resolve_congr alike)⟩

/-- Three pieces of text, one of them empty and one a brace, in front of a key that the metadata of
the photo does not have. -/
theorem resolve_stored_photo :
    let raw : Value := .list [.text "a", .text "", .null, .text "\x7b", .key (.text "k")]
    let s : Scheme := [.literal "a", .literal "", .literal "\x7b", .key "k"]
    Scheme.compile raw = .ok s ∧ s.IsStorable ∧ Scheme.parse (Scheme.format s) ≠ s ∧
      ((sameForAll (.ok [])).resolve Rename.photo (Scheme.parse (Scheme.format s))
        (.path ⟨.root, ["a"]⟩)).outcome =
        .ok (.skipped ⟨.path ⟨.root, ["a"]⟩, .missingMetadata, "no value for metadata key",
          some "k"⟩) := by
  intro raw s
  have compiled : Scheme.compile raw = .ok s := rfl
  have storable : s.IsStorable := by
    intro name listed
    have only : name = "k" := by simpa [s] using listed
    rw [only]
    decide +kernel
  refine ⟨compiled, storable, by decide +kernel, ?_⟩
  rw [(resolve_stored (sameForAll (.ok [])) Rename.photo compiled storable).1]
  have isFile : (sameForAll (.ok [])).disk.isFile Rename.photo ⟨.root, ["a"]⟩ = .ok true :=
    congrArg Except.ok Rename.photo_isFile
  rw [resolve_of_found rfl isFile rfl]
  rfl

end Planner

end MediaNaming
