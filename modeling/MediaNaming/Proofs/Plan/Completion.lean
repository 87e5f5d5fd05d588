import MediaNaming.Proofs.Plan.Names
import MediaNaming.Proofs.Rename.Local
import MediaNaming.Proofs.Value.Wording
import Mathlib.Logic.Basic
/-!
# When planning comes to its end

Finding the name of one file is to stay within that file: whatever stands in the way of a name
leaves the file out. Two things do not. A scheme may come to a value that cannot be written: one
with a whole number over the limit of digits, or one with more containers inside one another than
there is room for. And a failed lookup may come without words for the record. Either ends the
planning of all files. The theorem of this module says that nothing else does, and what becomes of
every path otherwise.
-/

namespace MediaNaming

namespace Value

/-- Paths as callers write them: texts and paths. -/
def IsPathInput (v : Value) : Prop :=
  (∃ s, v = .text s) ∨ ∃ p, v = .path p

theorem IsPathInput.wording {v : Value} (textual : v.IsPathInput) : ∃ s, v.wording = .ok s := by
  rcases textual with ⟨s, rfl⟩ | ⟨p, rfl⟩
  · exact ⟨s, rfl⟩
  · exact ⟨p.text, rfl⟩

/-- What stands for a file is a text or a path. -/
theorem isPathInput_of_filePath? {key : Value} {file : Path}
    (names : key.filePath? = some file) : key.IsPathInput := by
  cases key with
  | text s => exact Or.inl ⟨s, rfl⟩
  | path p => exact Or.inr ⟨p, rfl⟩
  | _ => cases names

/-- The items of a list or a tuple. -/
def sequence? : Value → Option (List Value)
  | list items => some items
  | tuple items => some items
  | _ => none

end Value

namespace Planner

open Log

variable {pl : Planner} {v : Volume} {scheme rest : Scheme} {path : Value} {paths : List Value}
  {metadata : Metadata} {file : Path} {f : Failure} {room : Nat}

/-! ## Filling in a scheme -/

/-- Filling in a scheme comes to a key whose value cannot be written, and that is why: every key
before it has a text that is not empty. -/
inductive MeetsObstacle (room : Nat) (metadata : Metadata) : Scheme → Failure → Prop where
  | here {name : String} {rest : Scheme} {f : Failure}
      (obstacle : (metadata.value name).obstacle? (room + 1) = some f) :
      MeetsObstacle room metadata (.key name :: rest) f
  | literal {s : String} {rest : Scheme} {f : Failure}
      (later : MeetsObstacle room metadata rest f) :
      MeetsObstacle room metadata (.literal s :: rest) f
  | key {name s : String} {rest : Scheme} {f : Failure}
      (written : Tag.plainText room (metadata.value name) = .ok s) (filled : s ≠ "")
      (later : MeetsObstacle room metadata rest f) :
      MeetsObstacle room metadata (.key name :: rest) f

theorem fill_literal {s : String} : fill room metadata (.literal s :: rest) =
    (fill room metadata rest).map (Except.map (s ++ ·)) := by
  rw [fill]
  cases fill room metadata rest <;> rfl

theorem fill_key {name s : String} (written : Tag.plainText room (metadata.value name) = .ok s)
    (filled : s ≠ "") : fill room metadata (.key name :: rest) =
      (fill room metadata rest).map (Except.map (s ++ ·)) := by
  rw [fill, written]
  cases fill room metadata rest <;> simp [bind, Except.bind, pure, Except.pure, filled, Except.map]

theorem fill_key_empty {name : String}
    (written : Tag.plainText room (metadata.value name) = .ok "") :
    fill room metadata (.key name :: rest) = .ok (.error name) := by
  rw [fill, written]
  rfl

theorem fill_key_error {name : String}
    (untold : Tag.plainText room (metadata.value name) = .error f) :
    fill room metadata (.key name :: rest) = .error f := by
  rw [fill, untold]
  rfl

theorem fill_literal_error_iff {s : String} :
    fill room metadata (.literal s :: rest) = .error f ↔ fill room metadata rest = .error f := by
  rw [fill_literal]
  cases fill room metadata rest <;> simp [Except.map]

theorem fill_key_error_iff {name s : String}
    (written : Tag.plainText room (metadata.value name) = .ok s) :
    fill room metadata (.key name :: rest) = .error f ↔
      s ≠ "" ∧ fill room metadata rest = .error f := by
  by_cases empty : s = ""
  · rw [empty] at written
    simp [fill_key_empty written, empty]
  · rw [fill_key written empty]
    cases fill room metadata rest <;> simp [Except.map, empty]

theorem meetsObstacle_literal_iff {s : String} :
    MeetsObstacle room metadata (.literal s :: rest) f ↔ MeetsObstacle room metadata rest f := by
  constructor
  · intro met
    cases met with
    | literal later => exact later
  · exact .literal

theorem meetsObstacle_key_iff {name s : String}
    (written : Tag.plainText room (metadata.value name) = .ok s) :
    MeetsObstacle room metadata (.key name :: rest) f ↔
      s ≠ "" ∧ MeetsObstacle room metadata rest f := by
  constructor
  · intro met
    cases met with
    | here obstacle =>
        rw [← Tag.plainText_error_iff, written] at obstacle
        cases obstacle
    | key writtenToo filled later =>
        rw [written] at writtenToo
        cases writtenToo
        exact ⟨filled, later⟩
  · rintro ⟨filled, later⟩
    exact .key written filled later

/-- Filling in a scheme fails exactly if it comes to a value that cannot be written. -/
theorem fill_error_iff :
    fill room metadata scheme = .error f ↔ MeetsObstacle room metadata scheme f := by
  induction scheme with
  | nil =>
      constructor
      · intro failed
        cases failed
      · intro impossible
        cases impossible
  | cons token rest ih =>
      cases token with
      | literal s => rw [fill_literal_error_iff, ih, meetsObstacle_literal_iff]
      | key name =>
          cases written : Tag.plainText room (metadata.value name) with
          | ok s => rw [fill_key_error_iff written, ih, meetsObstacle_key_iff written]
          | error g =>
              rw [fill_key_error written]
              constructor
              · intro same
                cases same
                exact .here (Tag.plainText_error_iff.mp written)
              · intro met
                cases met with
                | here obstacle =>
                    rw [← Tag.plainText_error_iff, written] at obstacle
                    rw [Except.error.inj obstacle]
                | key writtenToo =>
                    rw [written] at writtenToo
                    cases writtenToo

/-! ## One path -/

/-- The record of a file whose metadata cannot be had. -/
def lookupSkip (path : Value) (f : Failure) : Skipped :=
  if f.kind = .unsupportedType then ⟨path, .unsupportedType, f.message, none⟩
  else ⟨path, .extractionFailed, f.text, none⟩

theorem skip_outcome (textual : path.IsPathInput) (reason : SkipReason) (detail : String)
    (token : Option String) :
    (skip path reason detail token).outcome = .ok (.skipped ⟨path, reason, detail, token⟩) := by
  rcases textual with ⟨s, rfl⟩ | ⟨p, rfl⟩
  · rfl
  · rfl

theorem lookupFailure_outcome (textual : path.IsPathInput) (ordinary : f.isInterrupt = false) :
    (lookupFailure path f).outcome =
      match f.instead? with
      | some g => .error g
      | none => .ok (.skipped (lookupSkip path f)) := by
  simp only [lookupFailure, ordinary, Bool.false_eq_true, ↓reduceIte, lookupSkip]
  cases f.instead? with
  | some g => rfl
  | none =>
      dsimp only
      split
      next => exact skip_outcome textual _ _ _
      next => exact skip_outcome textual _ _ _

/-- What ends the planning of all files at a path whose file has been found: the scheme comes to a
value that cannot be written, or the lookup has failed without words. -/
def Stops (pl : Planner) (v : Volume) (scheme : Scheme) (path : Value) (f : Failure) : Prop :=
  ∃ file, path.filePath? = some file ∧ pl.disk.isFile v file = .ok true ∧
    ((∃ metadata, (pl.lookup v (pl.disk.absolute file)).outcome = .ok metadata ∧
        MeetsObstacle pl.room metadata scheme f) ∨
      ∃ g, (pl.lookup v (pl.disk.absolute file)).outcome = .error g ∧ g.instead? = some f)

theorem nameFrom_error_iff (textual : path.IsPathInput) :
    (pl.nameFrom scheme path file metadata).outcome = .error f ↔
      MeetsObstacle pl.room metadata scheme f := by
  rw [← fill_error_iff, nameFrom, Traced.bind_outcome]
  simp only [Traced.ofExcept]
  cases fill pl.room metadata scheme with
  | error g => simp
  | ok filled =>
      cases filled with
      | error key => simp [skip_outcome textual]
      | ok s =>
          rcases textual.wording with ⟨text, shown⟩
          dsimp only
          split
          next => simp [skip_outcome textual]
          next => simp [messageText, Traced.bind_outcome, Traced.ofExcept, shown]

section Direct

variable {cwd : Path} (direct : pl.disk = Disk.direct cwd)
  (ordinary : ∀ p f, (pl.lookup v p).outcome = .error f → f.isInterrupt = false)

include direct

/-- What finding the name of a path comes to, by what is found on the way. -/
theorem resolve_outcome (scheme : Scheme) (source : path.filePath? = some file) :
    (pl.resolve v scheme path).outcome =
      if v.isFile cwd file then
        match (pl.lookup v (Path.absolute cwd file)).outcome with
        | .ok metadata => (pl.nameFrom scheme path file metadata).outcome
        | .error f => (lookupFailure path f).outcome
      else (skip path .fileNotValid "could not access file" none).outcome := by
  have asked : pl.disk.isFile v file = .ok (v.isFile cwd file) := by
    rw [direct, Rename.direct_isFile]
  simp only [resolve, source]
  rw [Traced.ofExcept_bind_outcome _ asked, direct, Rename.direct_absolute]
  split
  next => cases (pl.lookup v (Path.absolute cwd file)).outcome <;> rfl
  next => rfl

include ordinary

/-- Finding the name of a path fails only for what ends the planning of all files. -/
theorem resolve_error_iff (textual : path.IsPathInput) :
    (pl.resolve v scheme path).outcome = .error f ↔ pl.Stops v scheme path f := by
  cases source : path.filePath? with
  | none => simp [resolve, Stops, source, skip_outcome textual]
  | some file =>
      rw [resolve_outcome direct scheme source]
      by_cases isFile : v.isFile cwd file = true
      · cases found : (pl.lookup v (Path.absolute cwd file)).outcome with
        | error g =>
            have failed := lookupFailure_outcome textual (ordinary _ _ found)
            cases words : g.instead? <;> rw [words] at failed <;>
              simp [Stops, source, direct, isFile, found, failed, words]
        | ok metadata =>
            simp [Stops, source, direct, isFile, found, nameFrom_error_iff textual]
      · simp [Stops, source, direct, isFile, skip_outcome textual]

/-- A failed lookup with words leaves the file out, with the reason that the kind of the failure
gives. -/
theorem resolve_lookupFailed (textual : path.IsPathInput) (source : path.filePath? = some file)
    (isFile : v.isFile cwd file = true)
    (failed : (pl.lookup v (Path.absolute cwd file)).outcome = .error f)
    (worded : f.instead? = none) :
    (pl.resolve v scheme path).outcome = .ok (.skipped (lookupSkip path f)) := by
  rw [resolve_outcome direct scheme source]
  simp only [isFile, ↓reduceIte, failed]
  rw [lookupFailure_outcome textual (ordinary _ _ failed), worded]

end Direct

/-- The record of a file that is left out names the path that was given. -/
theorem resolve_skipped_path {s : Skipped}
    (returned : (pl.resolve v scheme path).outcome = .ok (.skipped s)) : s.path = path := by
  cases resolve_finding returned with
  | skipped reason detail token => rfl

/-! ## Many paths -/

/-- Every path is resolved, or the first that fails ends the sweep. -/
theorem sweep_stop_eq_none_iff : (pl.sweep v scheme paths).stop = none ↔
    ∀ path ∈ paths, ∃ r, (pl.resolve v scheme path).outcome = .ok r := by
  induction paths with
  | nil => simp [sweep]
  | cons first rest ih =>
      cases resolved : (pl.resolve v scheme first).outcome with
      | error f => simp [sweep, resolved]
      | ok r => simp [sweep, resolved, ih]

/-- A sweep ends at the first path that fails. -/
theorem sweep_stop_eq_some_iff : (pl.sweep v scheme paths).stop = some f ↔
    ∃ done path rest, paths = done ++ path :: rest ∧
      (∀ p ∈ done, ∃ r, (pl.resolve v scheme p).outcome = .ok r) ∧
      (pl.resolve v scheme path).outcome = .error f := by
  induction paths with
  | nil => simp [sweep]
  | cons first others ih =>
      cases resolved : (pl.resolve v scheme first).outcome with
      | error g =>
          simp only [sweep, resolved, Option.some.injEq]
          constructor
          · rintro rfl
            exact ⟨[], first, others, rfl, by simp, resolved⟩
          · rintro ⟨done, path, rest, split, before, failed⟩
            cases done with
            | nil =>
                cases split
                rw [resolved] at failed
                exact Except.error.inj failed
            | cons front done =>
                cases split
                obtain ⟨r, early⟩ := before first List.mem_cons_self
                rw [resolved] at early
                cases early
      | ok r =>
          simp only [sweep, resolved, ih]
          constructor
          · rintro ⟨done, path, rest, rfl, before, failed⟩
            refine ⟨first :: done, path, rest, rfl, ?_, failed⟩
            intro p listed
            rcases List.mem_cons.mp listed with rfl | later
            · exact ⟨r, resolved⟩
            · exact before p later
          · rintro ⟨done, path, rest, split, before, failed⟩
            cases done with
            | nil =>
                cases split
                rw [resolved] at failed
                cases failed
            | cons front done =>
                cases split
                exact ⟨done, path, rest, rfl,
                  fun p later => before p (List.mem_cons_of_mem _ later), failed⟩

/-- A sweep that is not ended has what every path resolves to. -/
theorem mem_sweep_of_resolve {r : Resolution} (ended : (pl.sweep v scheme paths).stop = none)
    (given : path ∈ paths) (resolved : (pl.resolve v scheme path).outcome = .ok r) :
    r ∈ (pl.sweep v scheme paths).resolutions := by
  induction paths with
  | nil => cases given
  | cons first rest ih =>
      cases here : (pl.resolve v scheme first).outcome with
      | error f =>
          simp only [sweep, here] at ended
          cases ended
      | ok s =>
          simp only [sweep, here] at ended ⊢
          rcases List.mem_cons.mp given with rfl | later
          · rw [here] at resolved
            cases resolved
            exact List.mem_cons_self
          · exact List.mem_cons_of_mem _ (ih ended later)

theorem planAll_outcome : (pl.planAll v scheme paths).outcome =
    match (pl.sweep v scheme paths).stop with
    | some f => .error f
    | none => .ok ⟨Resolution.entries (pl.sweep v scheme paths).resolutions, true⟩ := by
  rw [planAll]
  cases (pl.sweep v scheme paths).stop <;> rfl

/-- Planning fails exactly if some path does behind paths that are all resolved, and with the
failure of this path. -/
theorem planAll_error_of_path_iff : (pl.planAll v scheme paths).outcome = .error f ↔
    ∃ done path rest, paths = done ++ path :: rest ∧
      (∀ p ∈ done, ∃ r, (pl.resolve v scheme p).outcome = .ok r) ∧
      (pl.resolve v scheme path).outcome = .error f := by
  rw [← sweep_stop_eq_some_iff, planAll_outcome]
  cases (pl.sweep v scheme paths).stop <;> simp

theorem planAll_ok {plan : MediaNaming.Plan}
    (planned : (pl.planAll v scheme paths).outcome = .ok plan) :
    (pl.sweep v scheme paths).stop = none ∧
      plan = ⟨Resolution.entries (pl.sweep v scheme paths).resolutions, true⟩ := by
  rw [planAll_outcome] at planned
  split at planned
  next => cases planned
  next ended =>
    cases planned
    exact ⟨ended, rfl⟩

theorem planAll_skipped : (pl.planAll v scheme paths).skipped =
    Resolution.skips (pl.sweep v scheme paths).resolutions := by
  rw [planAll]
  cases (pl.sweep v scheme paths).stop <;> rfl

/-- The files left out are those that resolve to a record, with this record. -/
theorem mem_planAll_skipped {plan : MediaNaming.Plan}
    (planned : (pl.planAll v scheme paths).outcome = .ok plan) {s : Skipped} :
    s ∈ (pl.planAll v scheme paths).skipped ↔
      s.path ∈ paths ∧ (pl.resolve v scheme s.path).outcome = .ok (.skipped s) := by
  rw [planAll_skipped]
  constructor
  · intro member
    rcases List.mem_filterMap.mp member with ⟨r, swept, chosen⟩
    cases r with
    | named path name => cases chosen
    | skipped s =>
        cases chosen
        rcases mem_sweep swept with ⟨path, given, resolved⟩
        rw [resolve_skipped_path resolved]
        exact ⟨given, resolved⟩
  · rintro ⟨given, resolved⟩
    have swept := mem_sweep_of_resolve (planAll_ok planned).1 given resolved
    exact List.mem_filterMap.mpr ⟨_, swept, rfl⟩

/-- The keys of a plan are the paths that resolve to a name. -/
theorem planAll_key {plan : MediaNaming.Plan} {name : String}
    (planned : (pl.planAll v scheme paths).outcome = .ok plan) (given : path ∈ paths)
    (resolved : (pl.resolve v scheme path).outcome = .ok (.named path name)) :
    (path, .text name) ∈ plan.entries := by
  rcases planAll_ok planned with ⟨ended, made⟩
  have swept := mem_sweep_of_resolve ended given resolved
  have listed : (path, name) ∈ Resolution.names (pl.sweep v scheme paths).resolutions :=
    List.mem_filterMap.mpr ⟨_, swept, rfl⟩
  have key : ∃ x, (path, x) ∈ plan.entries := by
    rw [made]
    exact Entries.ofPairs_key sweep_names_named (List.mem_map.mpr ⟨(path, name), listed, rfl⟩)
  rcases key with ⟨x, member⟩
  rcases mem_planAll planned member with ⟨found, rfl, outcome⟩
  rw [resolved] at outcome
  cases outcome
  exact member

/-- What planning owes to a path: a place in the plan or a record among the files left out, and
if its metadata cannot be had, the record that the kind of this failure gives, and no other. -/
structure Accounted (pl : Planner) (v : Volume) (planning : Planning) (plan : MediaNaming.Plan)
    (path : Value) : Prop where
  placed : Xor (∃ name, (path, .text name) ∈ plan.entries)
    (∃ s ∈ planning.skipped, s.path = path)
  lookupFailed : ∀ file f, path.filePath? = some file → pl.disk.isFile v file = .ok true →
    (pl.lookup v (pl.disk.absolute file)).outcome = .error f →
      ∀ s, s ∈ planning.skipped ∧ s.path = path ↔ s = lookupSkip path f

section Direct

variable {cwd : Path} (direct : pl.disk = Disk.direct cwd)
  (ordinary : ∀ p f, (pl.lookup v p).outcome = .error f → f.isInterrupt = false)

include direct ordinary

theorem planAll_accounts {plan : MediaNaming.Plan}
    (planned : (pl.planAll v scheme paths).outcome = .ok plan) (given : path ∈ paths)
    (textual : path.IsPathInput) : Accounted pl v (pl.planAll v scheme paths) plan path := by
  rcases sweep_stop_eq_none_iff.mp (planAll_ok planned).1 path given with ⟨r, resolved⟩
  constructor
  case placed =>
    cases r with
    | named key name =>
        rcases resolve_ok resolved with ⟨rfl, -⟩
        refine Or.inl ⟨⟨name, planAll_key planned given resolved⟩, ?_⟩
        rintro ⟨s, left, rfl⟩
        have skipped := ((mem_planAll_skipped planned).mp left).2
        rw [resolved] at skipped
        cases skipped
    | skipped s =>
        have same := resolve_skipped_path resolved
        subst same
        refine Or.inr ⟨⟨s, (mem_planAll_skipped planned).mpr ⟨given, resolved⟩, rfl⟩, ?_⟩
        rintro ⟨name, member⟩
        rcases mem_planAll planned member with ⟨found, -, named⟩
        rw [resolved] at named
        cases named
  case lookupFailed =>
    intro file f source isFile failed s
    rw [direct] at isFile failed
    -- Without words the lookup would have ended the planning.
    have worded : f.instead? = none := by
      cases words : f.instead? with
      | none => rfl
      | some g =>
          have stops : pl.Stops v scheme path g := by
            rw [← direct] at failed
            exact ⟨file, source, by rw [direct]; exact isFile, Or.inr ⟨f, failed, words⟩⟩
          rw [(resolve_error_iff direct ordinary textual).mpr stops] at resolved
          cases resolved
    have outcome : (pl.resolve v scheme path).outcome = .ok (.skipped (lookupSkip path f)) :=
      resolve_lookupFailed direct ordinary textual source (Except.ok.inj isFile) failed worded
    constructor
    · rintro ⟨left, same⟩
      have skipped := ((mem_planAll_skipped planned).mp left).2
      rw [same, outcome] at skipped
      exact (Resolution.skipped.inj (Except.ok.inj skipped)).symm
    · rintro rfl
      have same := resolve_skipped_path outcome
      refine ⟨(mem_planAll_skipped planned).mpr ?_, same⟩
      rw [same]
      exact ⟨given, outcome⟩

/-- A path is resolved exactly if it does not end the planning. -/
theorem resolve_ok_iff (textual : path.IsPathInput) :
    (∃ r, (pl.resolve v scheme path).outcome = .ok r) ↔ ∀ g, ¬pl.Stops v scheme path g := by
  simp only [← resolve_error_iff direct ordinary textual]
  cases (pl.resolve v scheme path).outcome <;> simp

/-- Planning the paths of a list fails exactly if some path ends it, and the first that does says
why. -/
theorem planAll_error_iff (textual : ∀ path ∈ paths, path.IsPathInput) :
    (pl.planAll v scheme paths).outcome = .error f ↔
      ∃ done path rest, paths = done ++ path :: rest ∧
        (∀ p ∈ done, ∀ g, ¬pl.Stops v scheme p g) ∧ pl.Stops v scheme path f := by
  rw [planAll_error_of_path_iff]
  have perSplit : ∀ done path rest, paths = done ++ path :: rest →
      ((∀ p ∈ done, ∃ r, (pl.resolve v scheme p).outcome = .ok r) ∧
          (pl.resolve v scheme path).outcome = .error f ↔
        (∀ p ∈ done, ∀ g, ¬pl.Stops v scheme p g) ∧ pl.Stops v scheme path f) := by
    rintro done path rest rfl
    have inFront : ∀ p ∈ done, ((∃ r, (pl.resolve v scheme p).outcome = .ok r) ↔
        ∀ g, ¬pl.Stops v scheme p g) := fun p listed =>
      resolve_ok_iff direct ordinary (textual p (List.mem_append_left _ listed))
    rw [forall₂_congr inFront, resolve_error_iff direct ordinary (textual path (by simp))]
  exact exists₃_congr fun done path rest => and_congr_right (perSplit done path rest)

end Direct

theorem plan_of_sequence? {given : Value} (listed : given.sequence? = some paths) :
    pl.plan v scheme given = pl.planAll v scheme paths := by
  cases given with
  | list items =>
      cases listed
      rfl
  | tuple items =>
      cases listed
      rfl
  | _ => cases listed

theorem plan_of_not_sequence {given : Value} (single : given.sequence? = none) :
    pl.plan v scheme given = ⟨.error (.notPaths given.kindName), [], []⟩ := by
  cases given with
  | list items => cases single
  | tuple items => cases single
  | _ => rfl

/-- Planning fails exactly if it is not given a list or a tuple, or if some path ends it: then the
first such path says why. A plan that is returned accounts for every path. -/
theorem plan_fails_iff {cwd : Path} (direct : pl.disk = Disk.direct cwd)
    (ordinary : ∀ p f, (pl.lookup v p).outcome = .error f → f.isInterrupt = false) {given : Value}
    (textual : ∀ paths, given.sequence? = some paths → ∀ path ∈ paths, path.IsPathInput) :
    (∀ f, (pl.plan v scheme given).outcome = .error f ↔
      (given.sequence? = none ∧ f = .notPaths given.kindName) ∨
      ∃ done path rest, given.sequence? = some (done ++ path :: rest) ∧
        (∀ p ∈ done, ∀ g, ¬pl.Stops v scheme p g) ∧ pl.Stops v scheme path f) ∧
    ∀ plan, (pl.plan v scheme given).outcome = .ok plan →
      ∃ paths, given.sequence? = some paths ∧
        ∀ path ∈ paths, Accounted pl v (pl.plan v scheme given) plan path := by
  cases listed : given.sequence? with
  | none =>
      rw [plan_of_not_sequence listed]
      refine ⟨fun f => ?_, fun plan impossible => by cases impossible⟩
      simp [eq_comm]
  | some paths =>
      have inputs := textual paths listed
      rw [plan_of_sequence? listed]
      constructor
      · intro f
        rw [planAll_error_iff direct ordinary inputs]
        simp
      · intro plan returned
        exact ⟨paths, rfl, fun path member =>
          planAll_accounts direct ordinary returned member (inputs path member)⟩

/-- A planner that learns the same of every file. -/
def sameForAll (found : Log.Traced Metadata) : Planner :=
  ⟨Disk.direct ⟨.root, []⟩, fun _ _ => found, Substitute.default, 1000⟩

/-- Where no file has a supported type, the photo is left out for this reason. -/
theorem plan_fails_iff_photo :
    let planning := (sameForAll (.fail (.unsupportedType ""))).plan Rename.photo [.key "n"]
      (.list [.path ⟨.root, ["a"]⟩])
    (∃ plan, planning.outcome = .ok plan) ∧
      ∀ s, s ∈ planning.skipped ∧ s.path = .path ⟨.root, ["a"]⟩ ↔
        s = ⟨.path ⟨.root, ["a"]⟩, .unsupportedType, "Unsupported file type: (none)", none⟩ := by
  intro planning
  have ordinary : ∀ p f, ((sameForAll (.fail (.unsupportedType ""))).lookup
      Rename.photo p).outcome = .error f → f.isInterrupt = false := by
    intro p f failed
    cases failed
    rfl
  have textual : ∀ paths, (Value.list [.path ⟨.root, ["a"]⟩]).sequence? = some paths →
      ∀ path ∈ paths, path.IsPathInput := by
    intro paths listed path member
    cases listed
    rcases List.mem_singleton.mp member with rfl
    exact Or.inr ⟨_, rfl⟩
  have spec := @plan_fails_iff _ _ [.key "n"] _ rfl ordinary _ textual
  have returned : ∃ plan, planning.outcome = .ok plan := by
    cases ended : planning.outcome with
    | ok plan => exact ⟨plan, rfl⟩
    | error f =>
        rcases (spec.1 f).mp ended with ⟨impossible, -⟩ | ⟨done, path, rest, -, -, stops⟩
        · cases impossible
        · rcases stops with ⟨file, -, -, ⟨metadata, found, -⟩ | ⟨g, failed, words⟩⟩
          · cases found
          · cases failed
            cases words
  refine ⟨returned, ?_⟩
  rcases returned with ⟨plan, returned⟩
  rcases spec.2 plan returned with ⟨paths, listed, accounted⟩
  cases listed
  have found : Rename.photo.isFile ⟨.root, []⟩ ⟨.root, ["a"]⟩ = true := Rename.photo_isFile
  exact (accounted _ List.mem_cons_self).lookupFailed ⟨.root, ["a"]⟩ (.unsupportedType "") rfl
    (congrArg Except.ok found) rfl

/-- What ends the planning at the photo ends the planning of its list. -/
theorem plan_photo_of_stops {found : Log.Traced Metadata}
    (ordinary : ∀ f, found.outcome = .error f → f.isInterrupt = false)
    (stops : (sameForAll found).Stops Rename.photo [.key "n"] (.path ⟨.root, ["a"]⟩) f) :
    ((sameForAll found).plan Rename.photo [.key "n"] (.list [.path ⟨.root, ["a"]⟩])).outcome =
      .error f := by
  rw [plan_of_sequence? rfl, planAll_error_of_path_iff]
  refine ⟨[], _, [], rfl, by simp, ?_⟩
  exact (resolve_error_iff rfl (fun _ => ordinary) (Or.inr ⟨_, rfl⟩)).mpr stops

theorem photo_stops {found : Log.Traced Metadata}
    (why : (∃ metadata, found.outcome = .ok metadata ∧
        MeetsObstacle 1000 metadata [.key "n"] f) ∨
      ∃ g, found.outcome = .error g ∧ g.instead? = some f) :
    (sameForAll found).Stops Rename.photo [.key "n"] (.path ⟨.root, ["a"]⟩) f :=
  ⟨⟨.root, ["a"]⟩, rfl, congrArg Except.ok Rename.photo_isFile, why⟩

/-- A number of one digit too many, a list too many inside one another, and a failure that has no
words for itself each end the planning of all files. -/
theorem unwritable_fails :
    ((sameForAll (.ok [("n", .int Number.firstLong)])).plan Rename.photo [.key "n"]
      (.list [.path ⟨.root, ["a"]⟩])).outcome = .error .numberTooLong ∧
    ((sameForAll (.ok [("n", .nested 1001)])).plan Rename.photo [.key "n"]
      (.list [.path ⟨.root, ["a"]⟩])).outcome = .error .tooDeep ∧
    ((sameForAll (.fail (.wordless .badValue .numberTooLong))).plan Rename.photo [.key "n"]
      (.list [.path ⟨.root, ["a"]⟩])).outcome = .error .numberTooLong := by
  have long : (Value.int Number.firstLong).obstacle? 1001 = some .numberTooLong :=
    Value.obstacle?_firstLong
  have deep : (Value.nested 1001).obstacle? 1001 = some .tooDeep := Value.obstacle?_nested 1000
  refine ⟨plan_photo_of_stops ?_ (photo_stops (Or.inl ⟨_, rfl, .here long⟩)),
    plan_photo_of_stops ?_ (photo_stops (Or.inl ⟨_, rfl, .here deep⟩)),
    plan_photo_of_stops ?_ (photo_stops (Or.inr ⟨_, rfl, rfl⟩))⟩
  · intro f failed
    cases failed
  · intro f failed
    cases failed
  · intro f failed
    cases failed
    rfl

end Planner

end MediaNaming
