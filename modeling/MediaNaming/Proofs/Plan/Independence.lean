import MediaNaming.Proofs.Plan.Completion
import MediaNaming.Proofs.Plan.Updates
import Mathlib.Data.Set.Card
/-!
# Planning file by file

What planning finds for a path depends on this path alone. The plan for two lists in a row is
therefore the plan for the first one, updated with the plan for the second one; every place of a
list contributes one entry of the plan or one record among the files left out; and the counters
in the log add up. `plan_append` says all of this at once.
-/

namespace MediaNaming

/-- Every resolution is a name or a record. -/
theorem Resolution.length_names_add_skips (rs : List Resolution) :
    (names rs).length + (skips rs).length = rs.length := by
  induction rs with
  | nil => rfl
  | cons r rest ih =>
      cases r with
      | named path name =>
          simp only [names, skips, List.filterMap_cons, List.length_cons] at ih ⊢
          omega
      | skipped s =>
          simp only [names, skips, List.filterMap_cons, List.length_cons] at ih ⊢
          omega

namespace Planner

open Log

variable {pl : Planner} {v : Volume} {scheme : Scheme} {path : Value} {paths ps qs : List Value}
  {plan : MediaNaming.Plan}

/-! ## Sweeps -/

/-- A sweep that comes to its end has resolved each path in its turn. -/
theorem sweep_answers (ended : (pl.sweep v scheme paths).stop = none) :
    List.Forall₂ (fun path r => (pl.resolve v scheme path).outcome = .ok r) paths
      (pl.sweep v scheme paths).resolutions := by
  induction paths with
  | nil => exact .nil
  | cons first rest ih =>
      cases resolved : (pl.resolve v scheme first).outcome with
      | error f =>
          simp only [sweep, resolved] at ended
          cases ended
      | ok r =>
          simp only [sweep, resolved] at ended ⊢
          exact .cons resolved (ih ended)

/-- Its log is the logs of the single paths in a row. -/
theorem sweep_logs (ended : (pl.sweep v scheme paths).stop = none) :
    (pl.sweep v scheme paths).logs = paths.flatMap fun path => (pl.resolve v scheme path).logs := by
  induction paths with
  | nil => rfl
  | cons first rest ih =>
      cases resolved : (pl.resolve v scheme first).outcome with
      | error f =>
          simp only [sweep, resolved] at ended
          cases ended
      | ok r =>
          simp only [sweep, resolved] at ended ⊢
          rw [ih ended, List.flatMap_cons]

/-- Behind paths that are all resolved a sweep goes on as if it started there. -/
theorem sweep_append (ended : (pl.sweep v scheme ps).stop = none) :
    pl.sweep v scheme (ps ++ qs) =
      ⟨(pl.sweep v scheme ps).resolutions ++ (pl.sweep v scheme qs).resolutions,
        (pl.sweep v scheme qs).stop,
        (pl.sweep v scheme ps).logs ++ (pl.sweep v scheme qs).logs⟩ := by
  induction ps with
  | nil => rfl
  | cons first rest ih =>
      cases resolved : (pl.resolve v scheme first).outcome with
      | error f =>
          simp only [sweep, resolved] at ended
          cases ended
      | ok r =>
          simp only [sweep, resolved, List.cons_append] at ended ⊢
          rw [ih ended]
          simp

/-! ## Plans -/

/-- The name that is found for a path, as the value of its entry. -/
def answer (pl : Planner) (v : Volume) (scheme : Scheme) (path : Value) : Value :=
  match (pl.resolve v scheme path).outcome with
  | .ok (.named _ name) => .text name
  | _ => .null

/-- The names of a sweep, as entries. -/
def namedPairs (s : Sweep) : Entries :=
  (Resolution.names s.resolutions).map fun e => (e.1, .text e.2)

theorem namedPairs_follow :
    Entries.Follow (pl.answer v scheme) (namedPairs (pl.sweep v scheme paths)) where
  named := sweep_names_named
  agree := by
    intro e member
    obtain ⟨entry, listed, same⟩ := List.mem_map.mp member
    rw [← same]
    simp only [answer, (mem_sweep_names listed).2]

theorem planAll_of_ended (ended : (pl.sweep v scheme paths).stop = none) :
    (pl.planAll v scheme paths).outcome =
      .ok ⟨Entries.updated [] (namedPairs (pl.sweep v scheme paths)), true⟩ := by
  rw [planAll_outcome, ended]
  rfl

theorem plan_entries (planned : (pl.planAll v scheme paths).outcome = .ok plan) :
    plan.entries = Entries.updated [] (namedPairs (pl.sweep v scheme paths)) := by
  obtain ⟨-, same⟩ := planAll_ok planned
  rw [same]
  rfl

theorem plan_entries_follow (planned : (pl.planAll v scheme paths).outcome = .ok plan) :
    Entries.Follow (pl.answer v scheme) plan.entries := by
  rw [plan_entries planned]
  exact Entries.Follow.nil.updated namedPairs_follow

/-- No path has two entries in a plan. -/
theorem plan_keys_nodup (planned : (pl.planAll v scheme paths).outcome = .ok plan) :
    (plan.entries.map Prod.fst).Nodup := by
  rw [plan_entries planned]
  exact Entries.Follow.nil.nodup_updated namedPairs_follow List.nodup_nil

/-- The entry of a path is what resolving this path gives. -/
theorem mem_planAll_iff (planned : (pl.planAll v scheme paths).outcome = .ok plan)
    {name : String} : (path, Value.text name) ∈ plan.entries ↔
      path ∈ paths ∧ (pl.resolve v scheme path).outcome = .ok (.named path name) := by
  constructor
  · intro member
    obtain ⟨found, same, resolved⟩ := mem_planAll planned member
    cases same
    refine ⟨?_, resolved⟩
    have key : path ∈ plan.entries.map Prod.fst := List.mem_map_of_mem member
    rw [plan_entries planned, Entries.Follow.nil.mem_keys_updated namedPairs_follow] at key
    rcases key with impossible | listed
    · cases impossible
    · obtain ⟨e, inPairs, same⟩ := List.mem_map.mp listed
      obtain ⟨entry, swept, made⟩ := List.mem_map.mp inPairs
      rw [← same, ← made]
      exact (mem_sweep_names swept).1
  · intro given
    exact planAll_key planned given.1 given.2

/-- What a place of a list contributes to the outcome of planning it: the entry of its path in the
plan, or a record of its path. -/
inductive Contribution (plan : MediaNaming.Plan) (path : Value) : Resolution → Prop where
  | entry {name : String} (listed : (path, Value.text name) ∈ plan.entries) :
      Contribution plan path (.named path name)
  | record {s : Skipped} (about : s.path = path) : Contribution plan path (.skipped s)

/-- What planning the paths of a list comes to, path by path. -/
structure PathByPath (pl : Planner) (v : Volume) (scheme : Scheme) (paths : List Value)
    (planning : Planning) (plan : MediaNaming.Plan) : Prop where
  /-- The plan and the files left out are made of what the single places contribute, in the order
  of the list. -/
  places : ∃ rs, List.Forall₂ (fun path r =>
      (pl.resolve v scheme path).outcome = .ok r ∧ Contribution plan path r) paths rs ∧
    plan.entries = Resolution.entries rs ∧ planning.skipped = Resolution.skips rs
  entry : ∀ path name, (path, Value.text name) ∈ plan.entries ↔
    path ∈ paths ∧ (pl.resolve v scheme path).outcome = .ok (.named path name)
  distinct : (plan.entries.map Prod.fst).Nodup
  count : {path | path ∈ plan.entries.map Prod.fst}.ncard +
    {path | path ∈ planning.skipped.map Skipped.path}.ncard = {path | path ∈ paths}.ncard
  /-- The log ends with the counters. -/
  counters : ∃ succeeded, succeeded + planning.skipped.length = paths.length ∧
    planning.logs = startRecord paths.length ::
      (paths.flatMap fun path => (pl.resolve v scheme path).logs) ++
        [endRecord paths.length succeeded planning.skipped.length]

theorem mem_keys_iff (planned : (pl.planAll v scheme paths).outcome = .ok plan) :
    path ∈ plan.entries.map Prod.fst ↔
      path ∈ paths ∧ ∃ name, (pl.resolve v scheme path).outcome = .ok (.named path name) := by
  constructor
  · intro key
    obtain ⟨e, member, same⟩ := List.mem_map.mp key
    obtain ⟨name, given, -⟩ := mem_planAll planned member
    have entry : (path, Value.text name) ∈ plan.entries := by
      rw [← same, ← given]
      exact member
    obtain ⟨listed, resolved⟩ := (mem_planAll_iff planned).mp entry
    exact ⟨listed, name, resolved⟩
  · intro given
    obtain ⟨listed, name, resolved⟩ := given
    exact List.mem_map_of_mem ((mem_planAll_iff planned).mpr ⟨listed, resolved⟩)

theorem mem_skipped_paths_iff (planned : (pl.planAll v scheme paths).outcome = .ok plan) :
    path ∈ (pl.planAll v scheme paths).skipped.map Skipped.path ↔
      path ∈ paths ∧ ∃ s, (pl.resolve v scheme path).outcome = .ok (.skipped s) := by
  constructor
  · intro left
    obtain ⟨s, member, same⟩ := List.mem_map.mp left
    obtain ⟨listed, resolved⟩ := (mem_planAll_skipped planned).mp member
    rw [same] at listed resolved
    exact ⟨listed, s, resolved⟩
  · intro given
    obtain ⟨listed, s, resolved⟩ := given
    have about : s.path = path := resolve_skipped_path resolved
    refine List.mem_map.mpr ⟨s, (mem_planAll_skipped planned).mpr ?_, about⟩
    rw [about]
    exact ⟨listed, resolved⟩

/-- The different paths of a list are the keys of its plan and the paths that are left out. -/
theorem planAll_count (planned : (pl.planAll v scheme paths).outcome = .ok plan) :
    {path | path ∈ plan.entries.map Prod.fst}.ncard +
      {path | path ∈ (pl.planAll v scheme paths).skipped.map Skipped.path}.ncard =
        {path | path ∈ paths}.ncard := by
  have ended := (planAll_ok planned).1
  have apart : Disjoint {path | path ∈ plan.entries.map Prod.fst}
      {path | path ∈ (pl.planAll v scheme paths).skipped.map Skipped.path} := by
    rw [Set.disjoint_left]
    intro path key left
    obtain ⟨-, name, named⟩ := (mem_keys_iff planned).mp key
    obtain ⟨-, s, skipped⟩ := (mem_skipped_paths_iff planned).mp left
    rw [named] at skipped
    cases skipped
  rw [← Set.ncard_union_eq apart (List.finite_toSet _) (List.finite_toSet _)]
  congr 1
  ext path
  change path ∈ plan.entries.map Prod.fst ∨
    path ∈ (pl.planAll v scheme paths).skipped.map Skipped.path ↔ path ∈ paths
  rw [mem_keys_iff planned, mem_skipped_paths_iff planned, ← and_or_left]
  constructor
  · exact And.left
  · intro listed
    refine ⟨listed, ?_⟩
    obtain ⟨r, resolved⟩ := sweep_stop_eq_none_iff.mp ended path listed
    cases r with
    | named key name =>
        obtain ⟨same, -⟩ := resolve_ok resolved
        subst same
        exact Or.inl ⟨name, resolved⟩
    | skipped s => exact Or.inr ⟨s, resolved⟩

theorem planAll_pathByPath (planned : (pl.planAll v scheme paths).outcome = .ok plan) :
    PathByPath pl v scheme paths (pl.planAll v scheme paths) plan := by
  obtain ⟨ended, made⟩ := planAll_ok planned
  constructor
  case places =>
    refine ⟨(pl.sweep v scheme paths).resolutions, ?_, by rw [made], planAll_skipped⟩
    have answers := (List.forall₂_and_left (p := (· ∈ paths)) _ _).mpr
      ⟨fun path listed => listed, sweep_answers ended⟩
    apply answers.imp
    intro path r given
    obtain ⟨listed, resolved⟩ := given
    refine ⟨resolved, ?_⟩
    cases r with
    | named key name =>
        obtain ⟨same, -⟩ := resolve_ok resolved
        subst same
        exact .entry ((mem_planAll_iff planned).mpr ⟨listed, resolved⟩)
    | skipped s => exact .record (resolve_skipped_path resolved)
  case entry =>
    intro path name
    exact mem_planAll_iff planned
  case distinct => exact plan_keys_nodup planned
  case count => exact planAll_count planned
  case counters =>
    refine ⟨(Resolution.names (pl.sweep v scheme paths).resolutions).length, ?_, ?_⟩
    · rw [planAll_skipped, Resolution.length_names_add_skips]
      exact (sweep_answers ended).length_eq.symm
    · rw [planAll_skipped, ← sweep_logs ended, planAll, ended]

/-- Planning two lists in a row is planning each, with the second plan put into the first. The
joint plan has the entries of the first one in their places and those of the second one whose
paths are new behind them, and it is made path by path. -/
theorem plan_append {p q : MediaNaming.Plan}
    (first : (pl.plan v scheme (.list ps)).outcome = .ok p)
    (second : (pl.plan v scheme (.list qs)).outcome = .ok q) :
    let joint := pl.plan v scheme (.list (ps ++ qs))
    let updated : MediaNaming.Plan := ⟨(p.edit q.entries).entries, true⟩
    joint.outcome = .ok updated ∧
      updated.entries = p.entries ++ q.entries.filter (fun e => (p.entries.get? e.1).isNone) ∧
      joint.skipped =
        (pl.plan v scheme (.list ps)).skipped ++ (pl.plan v scheme (.list qs)).skipped ∧
      PathByPath pl v scheme (ps ++ qs) joint updated := by
  intro joint updated
  have firstPlanned : (pl.planAll v scheme ps).outcome = .ok p := first
  have secondPlanned : (pl.planAll v scheme qs).outcome = .ok q := second
  have firstEnded := (planAll_ok firstPlanned).1
  have secondEnded := (planAll_ok secondPlanned).1
  have swept : pl.sweep v scheme (ps ++ qs) = _ := sweep_append firstEnded
  have follow := plan_entries_follow firstPlanned
  have jointPairs : namedPairs (pl.sweep v scheme (ps ++ qs)) =
      namedPairs (pl.sweep v scheme ps) ++ namedPairs (pl.sweep v scheme qs) := by
    simp [namedPairs, swept, Resolution.names]
  have entries : Entries.updated [] (namedPairs (pl.sweep v scheme (ps ++ qs))) =
      p.entries.updated q.entries := by
    rw [jointPairs, Entries.updated_append, ← plan_entries firstPlanned,
      ← follow.updated_ofPairs namedPairs_follow]
    congr 1
    exact (plan_entries secondPlanned).symm
  have planned : joint.outcome = .ok updated := by
    have ended : (pl.sweep v scheme (ps ++ qs)).stop = none := by
      rw [swept]
      exact secondEnded
    refine (planAll_of_ended ended).trans ?_
    rw [entries]
    rfl
  refine ⟨planned, ?_, ?_, planAll_pathByPath planned⟩
  · exact follow.updated_eq_append (plan_entries_follow secondPlanned)
      (plan_keys_nodup secondPlanned)
  · change (pl.planAll v scheme (ps ++ qs)).skipped =
      (pl.planAll v scheme ps).skipped ++ (pl.planAll v scheme qs).skipped
    rw [planAll_skipped, planAll_skipped, planAll_skipped, swept]
    exact List.filterMap_append

/-- A list with the photo and an empty text, and then the photo again: the photo has one entry, and
the empty text is left out. -/
theorem plan_append_photo :
    let photo := Value.path ⟨.root, ["a"]⟩
    let joint := (sameForAll (.ok [])).plan Rename.photo [.literal "b"]
      (.list ([photo, .text ""] ++ [photo]))
    joint.outcome = .ok ⟨[(photo, .text "b")], true⟩ ∧
      joint.skipped.map Skipped.path = [.text ""] := by
  intro photo joint
  have how : Resolved (sameForAll (.ok [])) Rename.photo [.literal "b"] photo ⟨.root, ["a"]⟩ []
      "b" := {
    source := rfl
    isFile := congrArg Except.ok Rename.photo_isFile
    found := rfl
    filled := ⟨"b", rfl, by decide +kernel⟩ }
  have resolved := how.outcome (by decide)
  have second : ((sameForAll (.ok [])).plan Rename.photo [.literal "b"]
      (.list [photo])).outcome = .ok ⟨[(photo, .text "b")], true⟩ := plan_single resolved
  have first : ((sameForAll (.ok [])).plan Rename.photo [.literal "b"]
      (.list [photo, .text ""])).outcome = .ok ⟨[(photo, .text "b")], true⟩ := by
    simp only [plan, planAll, sweep, resolved]
    rfl
  obtain ⟨planned, -, left, -⟩ := plan_append first second
  refine ⟨planned, ?_⟩
  rw [left]
  simp only [plan, planAll, sweep, resolved]
  rfl

end Planner

end MediaNaming
