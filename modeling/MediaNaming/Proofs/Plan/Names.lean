import MediaNaming.Proofs.Rename.Turn
import MediaNaming.Renamer
/-!
# Where the names of a plan come from

Every entry of a generated plan is one path that was given, with the name that resolving this very
path has found. Repeated paths do not change that: a later name for a path takes the place of the
earlier one.
-/

namespace MediaNaming

/-! ## Keys and entries -/

/-- Two keys that stand for files are the same key only if they are equal. -/
theorem Value.sameKey_eq {key other : Value} {file : Path} (same : key.sameKey other = true)
    (names : key.filePath? = some file) : key = other := by
  cases key with
  | text s =>
      cases other <;> simp [Value.sameKey, Value.number?] at same
      rw [same]
  | path p =>
      cases other <;> simp [Value.sameKey, Value.number?] at same
      rw [same]
  | _ => cases names

/-- A key that stands for a file can be shown. -/
theorem Value.wording_of_filePath? {key : Value} {file : Path}
    (names : key.filePath? = some file) : ∃ text, key.wording = .ok text := by
  cases key with
  | text s => exact ⟨s, rfl⟩
  | path p => exact ⟨p.text, rfl⟩
  | _ => cases names

namespace Entries

variable {entries pairs : Entries} {key value : Value} {entry : Value × Value}

/-- An entry after an insertion was there before or is the one inserted. -/
theorem mem_insert (named : ∀ e ∈ entries, ∃ path, e.1.filePath? = some path)
    (member : entry ∈ entries.insert key value) : entry ∈ entries ∨ entry = (key, value) := by
  simp only [insert] at member
  split at member
  next =>
    rcases List.mem_map.mp member with ⟨e, there, changed⟩
    split at changed
    next same =>
      rcases named e there with ⟨path, names⟩
      rw [← changed, Value.sameKey_eq same names]
      exact Or.inr rfl
    next =>
      rw [← changed]
      exact Or.inl there
  next =>
    rcases List.mem_append.mp member with old | new
    · exact Or.inl old
    · exact Or.inr (List.mem_singleton.mp new)

/-- Entries for files stay entries for files. -/
theorem insert_named (named : ∀ e ∈ entries, ∃ path, e.1.filePath? = some path)
    (source : ∃ path, key.filePath? = some path) :
    ∀ e ∈ entries.insert key value, ∃ path, e.1.filePath? = some path := by
  intro e member
  rcases mem_insert named member with old | rfl
  · exact named e old
  · exact source

/-- Inserting pairs one after another makes no entries of its own. -/
theorem mem_ofPairs (named : ∀ e ∈ pairs, ∃ path, e.1.filePath? = some path)
    (member : entry ∈ ofPairs pairs) : entry ∈ pairs := by
  have collected : ∀ start : Entries, (∀ e ∈ start, ∃ path, e.1.filePath? = some path) →
      entry ∈ pairs.foldl (fun entries e => insert entries e.1 e.2) start →
        entry ∈ start ∨ entry ∈ pairs := by
    clear member
    induction pairs with
    | nil => exact fun start _ member => Or.inl member
    | cons first rest ih =>
        intro start startNamed member
        have restNamed : ∀ e ∈ rest, ∃ path, e.1.filePath? = some path := fun e later =>
          named e (List.mem_cons_of_mem _ later)
        have nextNamed : ∀ e ∈ start.insert first.1 first.2,
            ∃ path, e.1.filePath? = some path :=
          insert_named startNamed (named first List.mem_cons_self)
        rcases ih restNamed (start.insert first.1 first.2) nextNamed member with earlier | later
        · rcases mem_insert startNamed earlier with old | rfl
          · exact Or.inl old
          · exact Or.inr List.mem_cons_self
        · exact Or.inr (List.mem_cons_of_mem _ later)
  rcases collected [] (by simp) member with impossible | there
  · cases impossible
  · exact there

/-- An insertion keeps the keys that were there. -/
theorem insert_keeps_key (there : ∃ x, (key, x) ∈ entries) (other x : Value) :
    ∃ y, (key, y) ∈ entries.insert other x := by
  rcases there with ⟨y, member⟩
  simp only [insert]
  split
  next =>
    by_cases same : key.sameKey other = true
    · exact ⟨x, List.mem_map.mpr ⟨(key, y), member, by simp [same]⟩⟩
    · exact ⟨y, List.mem_map.mpr ⟨(key, y), member, by simp [same]⟩⟩
  next => exact ⟨y, List.mem_append.mpr (Or.inl member)⟩

theorem insert_key (named : ∀ e ∈ entries, ∃ path, e.1.filePath? = some path) :
    (key, value) ∈ entries.insert key value := by
  simp only [insert]
  split
  next there =>
    rcases List.any_eq_true.mp there with ⟨e, member, same⟩
    rcases named e member with ⟨path, names⟩
    refine List.mem_map.mpr ⟨e, member, ?_⟩
    simp only [same, ↓reduceIte]
    rw [Value.sameKey_eq same names]
  next => exact List.mem_append.mpr (Or.inr (List.mem_singleton.mpr rfl))

/-- Inserting pairs one after another loses no key. -/
theorem ofPairs_key (named : ∀ e ∈ pairs, ∃ path, e.1.filePath? = some path)
    (given : (key, value) ∈ pairs) : ∃ x, (key, x) ∈ ofPairs pairs := by
  have collected : ∀ start : Entries, (∀ e ∈ start, ∃ path, e.1.filePath? = some path) →
      (∃ x, (key, x) ∈ start) ∨ (key, value) ∈ pairs →
        ∃ x, (key, x) ∈ pairs.foldl (fun entries e => insert entries e.1 e.2) start := by
    clear given
    induction pairs with
    | nil =>
        rintro start - (there | impossible)
        · exact there
        · cases impossible
    | cons first rest ih =>
        intro start startNamed either
        have restNamed : ∀ e ∈ rest, ∃ path, e.1.filePath? = some path := fun e later =>
          named e (List.mem_cons_of_mem _ later)
        have nextNamed : ∀ e ∈ start.insert first.1 first.2,
            ∃ path, e.1.filePath? = some path :=
          insert_named startNamed (named first List.mem_cons_self)
        apply ih restNamed (start.insert first.1 first.2) nextNamed
        rcases either with there | given
        · exact Or.inl (insert_keeps_key there first.1 first.2)
        · rcases List.mem_cons.mp given with rfl | later
          · exact Or.inl ⟨value, insert_key startNamed⟩
          · exact Or.inr later
  exact collected [] (by simp) (Or.inr given)

end Entries

/-! ## Resolving a path -/

namespace Planner

open Log

variable {pl : Planner} {v : Volume} {scheme : Scheme} {key path : Value} {name : String}

/-- What has led to the name of a path. -/
structure Resolved (pl : Planner) (v : Volume) (scheme : Scheme) (key : Value) (file : Path)
    (metadata : Metadata) (name : String) : Prop where
  source : key.filePath? = some file
  isFile : pl.disk.isFile v file = .ok true
  found : (pl.lookup v (pl.disk.absolute file)).outcome = .ok metadata
  filled : ∃ s, fill pl.room metadata scheme = .ok (.ok s) ∧
    name = pl.substitute.clean (s ++ file.suffix)

/-- What finding the name of a path can come to: a record of this path among the files left out,
or a name. -/
inductive Finding (pl : Planner) (v : Volume) (scheme : Scheme) (key : Value) :
    Resolution → Prop where
  | skipped (reason : SkipReason) (detail : String) (token : Option String) :
      Finding pl v scheme key (.skipped ⟨key, reason, detail, token⟩)
  | named {file : Path} {metadata : Metadata} {name : String}
      (how : Resolved pl v scheme key file metadata name) :
      Finding pl v scheme key (.named key name)

theorem skip_finding {reason : SkipReason} {detail : String} {token : Option String}
    {r : Resolution} (returned : (skip key reason detail token).outcome = .ok r) :
    Finding pl v scheme key r := by
  rcases Traced.bind_outcome_ok returned with ⟨shown, -, last⟩
  cases last
  exact .skipped reason detail token

theorem lookupFailure_finding {f : Failure} {r : Resolution}
    (returned : (lookupFailure key f).outcome = .ok r) : Finding pl v scheme key r := by
  simp only [lookupFailure] at returned
  split at returned
  next => cases returned
  next =>
    split at returned
    next => cases returned
    next =>
      split at returned
      next => exact skip_finding returned
      next => exact skip_finding returned

theorem nameFrom_finding {file : Path} {metadata : Metadata} {r : Resolution}
    (source : key.filePath? = some file) (isFile : pl.disk.isFile v file = .ok true)
    (found : (pl.lookup v (pl.disk.absolute file)).outcome = .ok metadata)
    (returned : (pl.nameFrom scheme key file metadata).outcome = .ok r) :
    Finding pl v scheme key r := by
  rcases Traced.bind_outcome_ok returned with ⟨filled, filling, rest⟩
  split at rest
  next => exact skip_finding rest
  next s =>
    dsimp only at rest
    split at rest
    next => exact skip_finding rest
    next =>
      rcases Traced.bind_outcome_ok rest with ⟨shown, -, last⟩
      cases last
      exact .named ⟨source, isFile, found, s, filling, rfl⟩

theorem resolve_finding {r : Resolution}
    (returned : (pl.resolve v scheme key).outcome = .ok r) : Finding pl v scheme key r := by
  rw [resolve] at returned
  split at returned
  next => exact skip_finding returned
  next file source =>
    rcases Traced.bind_outcome_ok returned with ⟨isFile, asked, rest⟩
    split at rest
    next there =>
      subst there
      dsimp only at rest
      split at rest
      next metadata found => exact nameFrom_finding source asked found rest
      next f failed => exact lookupFailure_finding rest
    next => exact skip_finding rest

theorem resolve_ok (returned : (pl.resolve v scheme key).outcome = .ok (.named path name)) :
    path = key ∧ ∃ file metadata, Resolved pl v scheme key file metadata name := by
  cases resolve_finding returned with
  | named how => exact ⟨rfl, _, _, how⟩

/-- A name that is not empty is what resolving the path comes to. -/
theorem Resolved.outcome {file : Path} {metadata : Metadata}
    (how : Resolved pl v scheme key file metadata name) (filled : name ≠ "") :
    (pl.resolve v scheme key).outcome = .ok (.named key name) := by
  rcases Value.wording_of_filePath? how.source with ⟨text, shown⟩
  rcases how.filled with ⟨s, filling, rfl⟩
  simp only [resolve, how.source]
  rw [Traced.ofExcept_bind_outcome _ how.isFile]
  simp only [↓reduceIte, how.found]
  have named : (pl.nameFrom scheme key file metadata).outcome =
      .ok (.named key (pl.substitute.clean (s ++ file.suffix))) := by
    simp only [nameFrom]
    rw [Traced.ofExcept_bind_outcome _ filling]
    simp only [filled, ↓reduceIte]
    simp only [messageText]
    rw [Traced.ofExcept_bind_outcome _ shown]
  exact named

/-! ## Plans -/

theorem mem_sweep {paths : List Value} {resolution : Resolution}
    (member : resolution ∈ (pl.sweep v scheme paths).resolutions) :
    ∃ key ∈ paths, (pl.resolve v scheme key).outcome = .ok resolution := by
  induction paths with
  | nil => cases member
  | cons first rest ih =>
      cases resolved : (pl.resolve v scheme first).outcome with
      | error f =>
          simp only [sweep, resolved] at member
          cases member
      | ok r =>
          simp only [sweep, resolved] at member
          rcases List.mem_cons.mp member with rfl | later
          · exact ⟨first, List.mem_cons_self, resolved⟩
          · rcases ih later with ⟨key, given, found⟩
            exact ⟨key, List.mem_cons_of_mem _ given, found⟩

/-- The names of a sweep are what its paths resolve to. -/
theorem mem_sweep_names {paths : List Value} {entry : Value × String}
    (member : entry ∈ Resolution.names (pl.sweep v scheme paths).resolutions) :
    entry.1 ∈ paths ∧ (pl.resolve v scheme entry.1).outcome = .ok (.named entry.1 entry.2) := by
  rcases List.mem_filterMap.mp member with ⟨r, swept, chosen⟩
  cases r with
  | skipped s => cases chosen
  | named path name =>
      cases chosen
      rcases mem_sweep swept with ⟨key, given, found⟩
      rcases resolve_ok found with ⟨rfl, -⟩
      exact ⟨given, found⟩

/-- They are the names of files. -/
theorem sweep_names_named {paths : List Value} :
    ∀ e ∈ (Resolution.names (pl.sweep v scheme paths).resolutions).map
      fun e => (e.1, Value.text e.2), ∃ file, e.1.filePath? = some file := by
  intro e there
  rcases List.mem_map.mp there with ⟨entry, listed, rfl⟩
  rcases resolve_ok (mem_sweep_names listed).2 with ⟨-, file, metadata, how⟩
  exact ⟨file, how.source⟩

/-- An entry of the plan for some paths is one of the paths with the name found for it. -/
theorem mem_planAll {paths : List Value} {plan : MediaNaming.Plan} {entry : Value × Value}
    (planned : (pl.planAll v scheme paths).outcome = .ok plan) (member : entry ∈ plan.entries) :
    ∃ name, entry.2 = .text name ∧
      (pl.resolve v scheme entry.1).outcome = .ok (.named entry.1 name) := by
  unfold planAll at planned
  dsimp only at planned
  split at planned
  next => cases planned
  next =>
    cases planned
    have listed := Entries.mem_ofPairs sweep_names_named member
    rcases List.mem_map.mp listed with ⟨⟨path, name⟩, there, rfl⟩
    exact ⟨name, rfl, (mem_sweep_names there).2⟩

/-- The plan for one path that has a name. -/
theorem plan_single (named : (pl.resolve v scheme key).outcome = .ok (.named key name)) :
    (pl.plan v scheme (.list [key])).outcome = .ok ⟨[(key, .text name)], true⟩ := by
  simp only [plan, planAll, sweep, named]
  rfl

end Planner

namespace Renamer

variable {r : Renamer} {disk : Disk} {lookup : Volume → Path → Log.Traced Metadata} {room : Nat}
  {v : Volume} {paths scheme : Value} {tokens : Scheme} {plan : MediaNaming.Plan}

/-- Where the scheme of a call is known, the call plans with it. -/
theorem generate_of_chosen (chosen : r.schemeFor scheme = .ok tokens) :
    (r.generate disk lookup room v paths scheme).1 =
      (r.planner disk lookup room).plan v tokens paths := by
  rw [generate, chosen]

/-- A call that returns a plan has a scheme. -/
theorem generate_ok (planned : (r.generate disk lookup room v paths scheme).1.outcome = .ok plan) :
    ∃ tokens, r.schemeFor scheme = .ok tokens ∧
      ((r.planner disk lookup room).plan v tokens paths).outcome = .ok plan := by
  cases chosen : r.schemeFor scheme with
  | error f =>
      rw [generate, chosen] at planned
      cases planned
  | ok tokens =>
      rw [generate_of_chosen chosen] at planned
      exact ⟨tokens, rfl, planned⟩

/-- An entry of a generated plan is a path with the name found for it. -/
theorem mem_generate {entry : Value × Value}
    (planned : (r.generate disk lookup room v paths scheme).1.outcome = .ok plan)
    (member : entry ∈ plan.entries) :
    ∃ tokens name, r.schemeFor scheme = .ok tokens ∧ entry.2 = .text name ∧
      ((r.planner disk lookup room).resolve v tokens entry.1).outcome =
        .ok (.named entry.1 name) := by
  obtain ⟨tokens, chosen, planned⟩ := generate_ok planned
  unfold Planner.plan at planned
  split at planned
  next =>
    obtain ⟨name, same, resolved⟩ := Planner.mem_planAll planned member
    exact ⟨tokens, name, chosen, same, resolved⟩
  next =>
    obtain ⟨name, same, resolved⟩ := Planner.mem_planAll planned member
    exact ⟨tokens, name, chosen, same, resolved⟩
  next => cases planned

end Renamer

end MediaNaming
