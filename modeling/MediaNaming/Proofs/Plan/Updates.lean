import MediaNaming.Proofs.Plan.Names
import Mathlib.Data.List.Induction
import Mathlib.Data.List.Nodup
/-!
# Updating entries

Entries that are collected from one source give every key the value that this source gives it. For
such entries an insertion either changes nothing or puts a new entry behind the others, and
updating one collection with another adds the entries whose keys are new.
-/

namespace MediaNaming

/-- A key that stands for a file is the same key as itself. -/
theorem Value.sameKey_self {key : Value} {file : Path} (names : key.filePath? = some file) :
    key.sameKey key = true := by
  cases key with
  | text s => simp [Value.sameKey]
  | path p => simp [Value.sameKey]
  | _ => cases names

namespace Entries

variable {entries pairs : Entries} {key value : Value} {answer : Value → Value}

/-- Entries for files, each with the value that `answer` gives its key. -/
structure Follow (answer : Value → Value) (entries : Entries) : Prop where
  named : ∀ e ∈ entries, ∃ file, e.1.filePath? = some file
  agree : ∀ e ∈ entries, e.2 = answer e.1

/-- Entries with further pairs inserted one after another. -/
def updated (entries pairs : Entries) : Entries :=
  pairs.foldl (fun entries e => entries.insert e.1 e.2) entries

theorem updated_append (entries pairs more : Entries) :
    entries.updated (pairs ++ more) = (entries.updated pairs).updated more := by
  simp [updated]

/-- Whether a key has an entry is told by equality. -/
theorem any_sameKey_iff (named : ∀ e ∈ entries, ∃ file, e.1.filePath? = some file) :
    (entries.any fun e => e.1.sameKey key) = true ↔ key ∈ entries.map Prod.fst := by
  rw [List.any_eq_true, List.mem_map]
  constructor
  · intro found
    obtain ⟨e, there, same⟩ := found
    obtain ⟨file, names⟩ := named e there
    exact ⟨e, there, Value.sameKey_eq same names⟩
  · intro found
    obtain ⟨e, there, same⟩ := found
    obtain ⟨file, names⟩ := named e there
    refine ⟨e, there, ?_⟩
    rw [← same]
    exact Value.sameKey_self names

/-- A key without an entry gets one behind the others. -/
theorem insert_of_absent (named : ∀ e ∈ entries, ∃ file, e.1.filePath? = some file)
    (absent : key ∉ entries.map Prod.fst) :
    entries.insert key value = entries ++ [(key, value)] := by
  have none : ¬(entries.any fun e => e.1.sameKey key) = true := by
    intro found
    exact absent ((any_sameKey_iff named).mp found)
  simp [insert, none]

theorem get?_isNone_iff (named : ∀ e ∈ entries, ∃ file, e.1.filePath? = some file) :
    (entries.get? key).isNone = true ↔ key ∉ entries.map Prod.fst := by
  rw [← any_sameKey_iff named]
  simp [get?]

namespace Follow

theorem nil : Follow answer [] :=
  ⟨by simp, by simp⟩

/-- A key that has its entry keeps it. -/
theorem insert_of_present (follow : Follow answer entries) (there : key ∈ entries.map Prod.fst) :
    entries.insert key (answer key) = entries := by
  have found : (entries.any fun e => e.1.sameKey key) = true :=
    (any_sameKey_iff follow.named).mpr there
  rw [insert, if_pos found]
  have kept : ∀ e ∈ entries,
      (if e.1.sameKey key then (e.1, answer key) else e) = id e := by
    intro e member
    split
    next same =>
      obtain ⟨file, names⟩ := follow.named e member
      have equal := Value.sameKey_eq same names
      rw [← equal, ← follow.agree e member]
      rfl
    next => rfl
  rw [List.map_congr_left kept, List.map_id]

theorem insert (follow : Follow answer entries) {file : Path}
    (names : key.filePath? = some file) : Follow answer (entries.insert key (answer key)) := by
  by_cases there : key ∈ entries.map Prod.fst
  · rw [follow.insert_of_present there]
    exact follow
  · rw [insert_of_absent follow.named there]
    constructor
    · intro e member
      rcases List.mem_append.mp member with old | new
      · exact follow.named e old
      · rw [List.mem_singleton.mp new]
        exact ⟨file, names⟩
    · intro e member
      rcases List.mem_append.mp member with old | new
      · exact follow.agree e old
      · rw [List.mem_singleton.mp new]

theorem tail {first : Value × Value} (follow : Follow answer (first :: pairs)) :
    Follow answer pairs where
  named := fun e later => follow.named e (List.mem_cons_of_mem _ later)
  agree := fun e later => follow.agree e (List.mem_cons_of_mem _ later)

theorem mem_keys_insert (follow : Follow answer entries) {other : Value} :
    other ∈ (entries.insert key (answer key)).map Prod.fst ↔
      other ∈ entries.map Prod.fst ∨ other = key := by
  by_cases there : key ∈ entries.map Prod.fst
  · rw [follow.insert_of_present there]
    constructor
    · exact Or.inl
    · intro either
      rcases either with old | same
      · exact old
      · rw [same]
        exact there
  · rw [insert_of_absent follow.named there, List.map_append, List.mem_append]
    simp

theorem nodup_insert (follow : Follow answer entries)
    (distinct : (entries.map Prod.fst).Nodup) :
    ((entries.insert key (answer key)).map Prod.fst).Nodup := by
  by_cases there : key ∈ entries.map Prod.fst
  · rw [follow.insert_of_present there]
    exact distinct
  · rw [insert_of_absent follow.named there, List.map_append, List.nodup_append]
    refine ⟨distinct, List.nodup_singleton _, ?_⟩
    intro old member new last same
    rw [same, List.mem_singleton.mp last] at member
    exact there member

/-- Updating inserts the first pair, and then the others. -/
theorem updated_cons {first : Value × Value} (more : Follow answer (first :: pairs)) :
    entries.updated (first :: pairs) =
      (entries.insert first.1 (answer first.1)).updated pairs := by
  rw [← more.agree first List.mem_cons_self]
  rfl

theorem updated (follow : Follow answer entries) (more : Follow answer pairs) :
    Follow answer (entries.updated pairs) := by
  induction pairs generalizing entries with
  | nil => exact follow
  | cons first rest ih =>
      obtain ⟨file, names⟩ := more.named first List.mem_cons_self
      rw [updated_cons more]
      exact ih (follow.insert names) more.tail

theorem mem_keys_updated (follow : Follow answer entries) (more : Follow answer pairs) :
    key ∈ (entries.updated pairs).map Prod.fst ↔
      key ∈ entries.map Prod.fst ∨ key ∈ pairs.map Prod.fst := by
  induction pairs generalizing entries with
  | nil => simp [Entries.updated]
  | cons first rest ih =>
      obtain ⟨file, names⟩ := more.named first List.mem_cons_self
      rw [updated_cons more, ih (follow.insert names) more.tail, follow.mem_keys_insert, or_assoc,
        List.map_cons, List.mem_cons]

/-- Updating never gives a key a second entry. -/
theorem nodup_updated (follow : Follow answer entries) (more : Follow answer pairs)
    (distinct : (entries.map Prod.fst).Nodup) : ((entries.updated pairs).map Prod.fst).Nodup := by
  induction pairs generalizing entries with
  | nil => exact distinct
  | cons first rest ih =>
      obtain ⟨file, names⟩ := more.named first List.mem_cons_self
      rw [updated_cons more]
      exact ih (follow.insert names) more.tail (follow.nodup_insert distinct)

/-- Pairs may be collected before they are inserted. -/
theorem updated_ofPairs (follow : Follow answer entries) (more : Follow answer pairs) :
    entries.updated (ofPairs pairs) = entries.updated pairs := by
  induction pairs using List.reverseRecOn with
  | nil => rfl
  | append_singleton front last ih =>
      have frontFollow : Follow answer front := {
        named := fun e member => more.named e (List.mem_append_left _ member)
        agree := fun e member => more.agree e (List.mem_append_left _ member) }
      have given : last.2 = answer last.1 :=
        more.agree last (List.mem_append_right _ (List.mem_singleton.mpr rfl))
      have collected : Follow answer (ofPairs front) := nil.updated frontFollow
      have step : ∀ start : Entries, start.updated (front ++ [last]) =
          (start.updated front).insert last.1 (answer last.1) := by
        intro start
        rw [updated_append, ← given]
        rfl
      have collect : ofPairs (front ++ [last]) =
          (ofPairs front).insert last.1 (answer last.1) := step []
      rw [collect, step]
      by_cases there : last.1 ∈ (ofPairs front).map Prod.fst
      · -- the key has been inserted before, with the same value
        have inFront : last.1 ∈ front.map Prod.fst := by
          have either := (nil.mem_keys_updated frontFollow).mp there
          simpa using either
        have already : last.1 ∈ (entries.updated front).map Prod.fst :=
          (follow.mem_keys_updated frontFollow).mpr (Or.inr inFront)
        rw [collected.insert_of_present there, ih frontFollow,
          (follow.updated frontFollow).insert_of_present already]
      · rw [insert_of_absent collected.named there, updated_append, ih frontFollow]
        rfl

/-- Updating with pairs of different keys adds those whose keys are new. -/
theorem updated_eq_append (follow : Follow answer entries) (more : Follow answer pairs)
    (distinct : (pairs.map Prod.fst).Nodup) :
    entries.updated pairs = entries ++ pairs.filter fun e => (entries.get? e.1).isNone := by
  induction pairs generalizing entries with
  | nil => simp [Entries.updated]
  | cons first rest ih =>
      obtain ⟨file, names⟩ := more.named first List.mem_cons_self
      have next : Follow answer (entries.insert first.1 (answer first.1)) := follow.insert names
      rw [List.map_cons, List.nodup_cons] at distinct
      rw [updated_cons more, ih next more.tail distinct.2, List.filter_cons]
      by_cases there : first.1 ∈ entries.map Prod.fst
      · have known : ¬(entries.get? first.1).isNone = true := by
          rw [get?_isNone_iff follow.named]
          exact not_not_intro there
        rw [follow.insert_of_present there, if_neg known]
      · have new : (entries.get? first.1).isNone = true := (get?_isNone_iff follow.named).mpr there
        -- no later pair has the key that has just been added
        have same : (rest.filter fun e =>
            ((entries.insert first.1 (answer first.1)).get? e.1).isNone) =
              rest.filter fun e => (entries.get? e.1).isNone := by
          apply List.filter_congr
          intro e later
          have other : e.1 ≠ first.1 := by
            intro equal
            exact distinct.1 (equal ▸ List.mem_map_of_mem later)
          rw [Bool.eq_iff_iff, get?_isNone_iff next.named, get?_isNone_iff follow.named,
            follow.mem_keys_insert]
          simp [other]
        rw [same, insert_of_absent follow.named there, if_pos new,
          ← more.agree first List.mem_cons_self, List.append_assoc]
        rfl

end Follow

end Entries

end MediaNaming
