import MediaNaming.Proofs.Plan.Completion
import Mathlib.Data.List.Forall2
/-!
# How far planning comes

Paths are resolved one after another, and a failure leaves the rest of them alone. The paths in
front of it are resolved all the same: what is recorded about them stays known.
-/

namespace MediaNaming.Planner

variable {pl : Planner} {v : Volume} {scheme : Scheme} {paths done rest : List Value}
  {rs : List Resolution} {stop : Option Failure} {given : Value}

/-- Planning resolves some paths in front, and then comes to the end of the list or to a path
whose failure stops it. -/
structure Reaches (pl : Planner) (v : Volume) (scheme : Scheme) (paths done rest : List Value)
    (rs : List Resolution) (stop : Option Failure) : Prop where
  split : paths = done ++ rest
  resolved : List.Forall₂ (fun path r => (pl.resolve v scheme path).outcome = .ok r) done rs
  ended : rest = [] ↔ stop = none
  failed : ∀ path more, rest = path :: more →
    ∃ f, (pl.resolve v scheme path).outcome = .error f ∧ stop = some f

theorem Reaches.nil (pl : Planner) (v : Volume) (scheme : Scheme) :
    Reaches pl v scheme [] [] [] [] none where
  split := rfl
  resolved := .nil
  ended := by simp
  failed := by
    intro path more impossible
    cases impossible

theorem Reaches.stopped {path : Value} {f : Failure} (more : List Value)
    (failed : (pl.resolve v scheme path).outcome = .error f) :
    Reaches pl v scheme (path :: more) [] (path :: more) [] (some f) where
  split := rfl
  resolved := .nil
  ended := by simp
  failed := by
    intro first others same
    cases same
    exact ⟨f, failed, rfl⟩

theorem Reaches.cons {path : Value} {r : Resolution}
    (resolved : (pl.resolve v scheme path).outcome = .ok r)
    (later : Reaches pl v scheme paths done rest rs stop) :
    Reaches pl v scheme (path :: paths) (path :: done) rest (r :: rs) stop where
  split := congrArg (path :: ·) later.split
  resolved := .cons resolved later.resolved
  ended := later.ended
  failed := later.failed

theorem Reaches.resolves (reaches : Reaches pl v scheme paths done rest rs stop) :
    ∀ path ∈ done, ∃ r, (pl.resolve v scheme path).outcome = .ok r := by
  have resolved := reaches.resolved
  clear reaches
  induction resolved with
  | nil => simp
  | cons first _ ih =>
      intro path listed
      cases listed with
      | head => exact ⟨_, first⟩
      | tail _ later => exact ih path later

theorem sweep_reaches (pl : Planner) (v : Volume) (scheme : Scheme) (paths : List Value) :
    ∃ done rest, Reaches pl v scheme paths done rest (pl.sweep v scheme paths).resolutions
      (pl.sweep v scheme paths).stop := by
  induction paths with
  | nil => exact ⟨[], [], .nil pl v scheme⟩
  | cons first others ih =>
      cases resolved : (pl.resolve v scheme first).outcome with
      | error f =>
          simp only [sweep, resolved]
          exact ⟨[], first :: others, .stopped others resolved⟩
      | ok r =>
          obtain ⟨done, rest, later⟩ := ih
          simp only [sweep, resolved]
          exact ⟨first :: done, rest, .cons resolved later⟩

/-! ## Whatever is handed in -/

/-- The failure that ends a planning. -/
def stopOf (planning : Planning) : Option Failure :=
  match planning.outcome with
  | .ok _ => none
  | .error f => some f

/-- Planning the paths of a list records what the paths in front of a failure resolve to. -/
theorem plan_reaches (listed : given.sequence? = some paths) :
    ∃ done rest rs, Reaches pl v scheme paths done rest rs (stopOf (pl.plan v scheme given)) ∧
      (pl.plan v scheme given).skipped = Resolution.skips rs := by
  obtain ⟨done, rest, reaches⟩ := sweep_reaches pl v scheme paths
  refine ⟨done, rest, (pl.sweep v scheme paths).resolutions, ?_, ?_⟩
  · have same : stopOf (pl.plan v scheme given) = (pl.sweep v scheme paths).stop := by
      rw [stopOf, plan_of_sequence? listed, planAll_outcome]
      cases (pl.sweep v scheme paths).stop <;> rfl
    rw [same]
    exact reaches
  · rw [plan_of_sequence? listed, planAll_skipped]

end MediaNaming.Planner
