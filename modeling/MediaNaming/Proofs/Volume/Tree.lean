import MediaNaming.Proofs.Path
import MediaNaming.Volume.Change
import Mathlib.Data.List.Nodup
/-!
# Well-formed file trees

A volume is a list of entries, and not every list describes a tree. `Volume.WellFormed` states the
laws of one: a location holds at most one entry, an entry has a name of its own, and it stands in
a directory. Under these laws `Volume.entry?` is membership, and moving an entry is a change of
the view that `entry?` gives.
-/

namespace MediaNaming.Volume

open MediaNaming.Path (IsName)

/-- The laws of a file tree. -/
structure WellFormed (v : Volume) : Prop where
  distinct : (v.entries.map Prod.fst).Nodup
  /-- The root is no entry: the empty text is no name. -/
  placed : ∀ e ∈ v.entries, IsName (e.1.headD "") ∧ v.entry? e.1.tail = some .directory

instance (v : Volume) : Decidable v.WellFormed :=
  decidable_of_iff
    ((v.entries.map Prod.fst).Nodup ∧
      ∀ e ∈ v.entries, IsName (e.1.headD "") ∧ v.entry? e.1.tail = some .directory)
    ⟨fun laws => ⟨laws.1, laws.2⟩, fun wf => ⟨wf.distinct, wf.placed⟩⟩

@[simp] theorem entry?_root (v : Volume) : v.entry? [] = some .directory := by
  simp [ entry?]

theorem entry?_of_ne_root (v : Volume) {l : Location} (inside : l ≠ []) :
    v.entry? l = v.entries.lookup l := by
  simp [ entry?, inside]

/-- With one entry for each key, looking up is membership. -/
theorem lookup_eq_some_iff_mem {entries : List (Location × Entry)} {l : Location} {e : Entry}
    (distinct : (entries.map Prod.fst).Nodup) :
    entries.lookup l = some e ↔ (l, e) ∈ entries := by
  induction entries with
  | nil => simp
  | cons first rest ih =>
      rcases first with ⟨key, value⟩
      rcases List.nodup_cons.mp distinct with ⟨absent, restDistinct⟩
      by_cases same : l = key
      · subst same
        have notLater : (l, e) ∉ rest := by
          intro member
          exact absent (List.mem_map.mpr ⟨(l, e), member, rfl⟩)
        simp [notLater, eq_comm]
      · rw [List.lookup_cons, beq_eq_false_iff_ne.mpr same]
        simp [ih restDistinct, same]

namespace WellFormed

variable {v : Volume} {l : Location} {e : Entry}

theorem ne_root_of_mem (wf : v.WellFormed) (member : (l, e) ∈ v.entries) : l ≠ [] := by
  rintro rfl
  exact (wf.placed _ member).1.1 rfl

theorem entry?_eq_some_iff (wf : v.WellFormed) (inside : l ≠ []) :
    v.entry? l = some e ↔ (l, e) ∈ v.entries := by
  rw [entry?_of_ne_root v inside]
  exact lookup_eq_some_iff_mem wf.distinct

theorem entry?_of_mem (wf : v.WellFormed) (member : (l, e) ∈ v.entries) : v.entry? l = some e :=
  (wf.entry?_eq_some_iff (wf.ne_root_of_mem member)).mpr member

/-- What holds an entry is a directory. -/
theorem directory_above (wf : v.WellFormed) {name : String} {dir : Location}
    (there : v.entry? (name :: dir) = some e) : v.entry? dir = some .directory :=
  (wf.placed _ ((wf.entry?_eq_some_iff (List.cons_ne_nil _ _)).mp there)).2

theorem isName (wf : v.WellFormed) {name : String} {dir : Location}
    (there : v.entry? (name :: dir) = some e) : IsName name :=
  (wf.placed _ ((wf.entry?_eq_some_iff (List.cons_ne_nil _ _)).mp there)).1

/-- Everything above an entry is a directory. -/
theorem directory_of_suffix (wf : v.WellFormed) {above : Location} (there : v.entry? l = some e)
    (suffix : above <:+ l) (proper : l ≠ above) : v.entry? above = some .directory := by
  rcases suffix with ⟨names, rfl⟩
  induction names generalizing e with
  | nil => exact absurd rfl proper
  | cons name names ih =>
      have directory := wf.directory_above there
      cases names with
      | nil => exact directory
      | cons other names =>
          refine ih directory ?_
          intro equal
          have lengths := congrArg List.length equal
          simp only [List.length_append, List.length_cons] at lengths
          omega

/-- Nothing lies below what is no directory. -/
theorem entry?_below (wf : v.WellFormed) {top : Location}
    (noDirectory : v.entry? top ≠ some .directory) (suffix : top <:+ l) (proper : l ≠ top) :
    v.entry? l = none := by
  cases there : v.entry? l with
  | none => rfl
  | some e => exact absurd (wf.directory_of_suffix there suffix proper) noDirectory

end WellFormed

/-! ## Moving an entry -/

variable {source target l : Location}

@[simp] theorem relocate_append (source target names : Location) :
    relocate source target (names ++ source) = names ++ target := by
  simp [relocate]

theorem relocate_of_not_suffix (target : Location) (outside : ¬source <:+ l) :
    relocate source target l = l := by
  simp [relocate, outside]

/-- What moving needs in order to lose nothing but an entry at the target itself: the two
locations lie apart, nothing lies below the target, and the target is a place in a directory. -/
structure Movable (v : Volume) (source target : Location) : Prop where
  notInto : ¬source <:+ target
  notOnto : ¬target <:+ source
  clear : ∀ l, target <:+ l → l ≠ target → v.entry? l = none
  named : IsName (target.headD "")
  above : v.entry? target.tail = some .directory

namespace Movable

variable {v : Volume}

theorem source_ne_root (movable : v.Movable source target) : source ≠ [] := by
  rintro rfl
  exact movable.notInto (List.nil_suffix)

theorem target_ne_root (movable : v.Movable source target) : target ≠ [] := by
  rintro rfl
  exact movable.notOnto (List.nil_suffix)

end Movable

theorem mem_move {v : Volume} {e : Entry} :
    (l, e) ∈ (v.move source target).entries ↔
      ∃ m, (m, e) ∈ v.entries ∧ m ≠ target ∧ relocate source target m = l := by
  simp [move, and_assoc]

/-- Entries that a move leaves in place do not land on one another. -/
theorem relocate_injective {v : Volume} (wf : v.WellFormed) (movable : v.Movable source target)
    {m n : Location} {e f : Entry} (left : (m, e) ∈ v.entries) (leftKept : m ≠ target)
    (right : (n, f) ∈ v.entries) (rightKept : n ≠ target)
    (equal : relocate source target m = relocate source target n) : m = n := by
  have notBelow : ∀ {k : Location} {g : Entry}, (k, g) ∈ v.entries → k ≠ target →
      ¬target <:+ k := by
    intro k g member kept suffix
    have absent := movable.clear k suffix kept
    rw [wf.entry?_of_mem member] at absent
    cases absent
  by_cases leftInside : source <:+ m <;> by_cases rightInside : source <:+ n
  · rcases leftInside with ⟨names, rfl⟩
    rcases rightInside with ⟨others, rfl⟩
    simp only [relocate_append, List.append_cancel_right_eq] at equal
    rw [equal]
  · rcases leftInside with ⟨names, rfl⟩
    rw [relocate_append, relocate_of_not_suffix target rightInside] at equal
    exact absurd ⟨names, equal⟩ (notBelow right rightKept)
  · rcases rightInside with ⟨names, rfl⟩
    rw [relocate_append, relocate_of_not_suffix target leftInside] at equal
    exact absurd ⟨names, equal.symm⟩ (notBelow left leftKept)
  · rwa [relocate_of_not_suffix target leftInside,
      relocate_of_not_suffix target rightInside] at equal

theorem move_distinct {v : Volume} (wf : v.WellFormed) (movable : v.Movable source target) :
    ((v.move source target).entries.map Prod.fst).Nodup := by
  have entriesDistinct : v.entries.Nodup := wf.distinct.of_map
  have kept : (v.entries.filter fun e => e.1 ≠ target).Nodup := entriesDistinct.filter _
  simp only [move, List.map_map]
  refine List.Nodup.map_on ?_ kept
  rintro ⟨m, e⟩ left ⟨n, f⟩ right equal
  simp only [List.mem_filter, decide_eq_true_eq] at left right
  have same := relocate_injective wf movable left.1 left.2 right.1 right.2 equal
  subst same
  have entries := (wf.entry?_of_mem left.1).symm.trans (wf.entry?_of_mem right.1)
  rw [Option.some.inj entries]

section View

variable {v : Volume} (wf : v.WellFormed) (movable : v.Movable source target)

include wf movable

theorem entry?_move_iff (inside : l ≠ []) (e : Entry) :
    Volume.entry? (v.move source target) l = some e ↔
      ∃ m, (m, e) ∈ v.entries ∧ m ≠ target ∧ relocate source target m = l := by
  rw [entry?_of_ne_root _ inside, lookup_eq_some_iff_mem (move_distinct wf movable), mem_move]

/-- What stood at or below the source stands at or below the target. -/
theorem entry?_move_target (names : Location) :
    Volume.entry? (v.move source target) (names ++ target) = v.entry? (names ++ source) := by
  have inside : names ++ target ≠ [] := by simp [movable.target_ne_root]
  have sourceInside : names ++ source ≠ [] := by simp [movable.source_ne_root]
  ext e
  rw [entry?_move_iff wf movable inside, wf.entry?_eq_some_iff sourceInside]
  constructor
  · rintro ⟨m, member, kept, moved⟩
    by_cases below : source <:+ m
    · rcases below with ⟨others, rfl⟩
      rw [relocate_append, List.append_cancel_right_eq] at moved
      rwa [← moved]
    · rw [relocate_of_not_suffix target below] at moved
      subst moved
      have absent := movable.clear _ (List.suffix_append names target) kept
      rw [wf.entry?_of_mem member] at absent
      cases absent
  · intro member
    refine ⟨names ++ source, member, ?_, relocate_append source target names⟩
    rintro rfl
    exact movable.notInto (List.suffix_append names source)

/-- Nothing stays at or below the source. -/
theorem entry?_move_source (names : Location) :
    Volume.entry? (v.move source target) (names ++ source) = none := by
  have inside : names ++ source ≠ [] := by simp [movable.source_ne_root]
  cases there : Volume.entry? (v.move source target) (names ++ source) with
  | none => rfl
  | some e =>
      rcases (entry?_move_iff wf movable inside e).mp there with ⟨m, _, _, moved⟩
      by_cases below : source <:+ m
      · rcases below with ⟨others, rfl⟩
        rw [relocate_append] at moved
        have atTarget : target <:+ names ++ source := ⟨others, moved⟩
        -- both locations end the same one, so one of them ends the other
        rcases List.suffix_or_suffix_of_suffix atTarget (List.suffix_append names source) with
          onto | into
        · exact absurd onto movable.notOnto
        · exact absurd into movable.notInto
      · rw [relocate_of_not_suffix target below] at moved
        exact absurd (moved ▸ List.suffix_append names source) below

/-- Everything else stays as it is. -/
theorem entry?_move_other (notSource : ¬source <:+ l) (notTarget : ¬target <:+ l) :
    Volume.entry? (v.move source target) l = v.entry? l := by
  by_cases root : l = []
  · subst root
    simp
  ext e
  rw [entry?_move_iff wf movable root, wf.entry?_eq_some_iff root]
  constructor
  · rintro ⟨m, member, _, moved⟩
    by_cases below : source <:+ m
    · rcases below with ⟨others, rfl⟩
      rw [relocate_append] at moved
      exact absurd ⟨others, moved⟩ notTarget
    · rw [relocate_of_not_suffix target below] at moved
      rwa [← moved]
  · intro member
    refine ⟨l, member, ?_, relocate_of_not_suffix target notSource⟩
    rintro rfl
    exact notTarget (List.suffix_refl l)

theorem move_wellFormed : (v.move source target).WellFormed where
  distinct := move_distinct wf movable
  placed := by
    rintro ⟨l, e⟩ member
    rcases mem_move.mp member with ⟨m, old, kept, rfl⟩
    by_cases below : source <:+ m
    · rcases below with ⟨names, rfl⟩
      rw [relocate_append]
      cases names with
      | nil =>
          have outside : ¬target <:+ target.tail := by
            intro suffix
            have short := suffix.length_le
            have long := List.length_pos_of_ne_nil movable.target_ne_root
            rw [List.length_tail] at short
            omega
          have notSource : ¬source <:+ target.tail := fun suffix =>
            movable.notInto (suffix.trans (List.tail_suffix target))
          refine ⟨movable.named, ?_⟩
          simp only [List.nil_append]
          rw [entry?_move_other wf movable notSource outside]
          exact movable.above
      | cons name names =>
          rcases wf.placed _ old with ⟨named, directory⟩
          refine ⟨named, ?_⟩
          exact (entry?_move_target wf movable names).trans directory
    · rw [relocate_of_not_suffix target below]
      rcases wf.placed _ old with ⟨named, directory⟩
      refine ⟨named, ?_⟩
      have present := wf.entry?_of_mem old
      have notSource : ¬source <:+ m.tail := fun suffix =>
        below (suffix.trans (List.tail_suffix m))
      have notTarget : ¬target <:+ m.tail := by
        intro suffix
        have absent := movable.clear m (suffix.trans (List.tail_suffix m)) kept
        rw [present] at absent
        cases absent
      rw [entry?_move_other wf movable notSource notTarget]
      exact directory

end View

end MediaNaming.Volume
