import MediaNaming.Proofs.Outcome
import MediaNaming.Proofs.Volume.Plain
import Mathlib.Data.List.Nodup
/-!
# Listing a directory

A listing has the regular files of a directory, one after another in the order of their names, and
nothing else: each name once, whether a file stands there or a link that leads to one, and no name
from further below. There is no listing just if one of the names cannot be asked about.
-/

namespace MediaNaming.Volume

open MediaNaming.Path (IsName)

variable {v : Volume} {cwd p : Path} {dir : Location} {name : String} {ps qs : List Path}
  {f : Failure} {e : Entry} {b : Bool}

/-! ## The names in a directory -/

/-- The name of a location that lies directly inside a directory. -/
def nameIn? (dir : Location) : Location → Option String
  | name :: above => if above = dir then some name else none
  | [] => none

theorem nameIn?_eq_some_iff {l : Location} : nameIn? dir l = some name ↔ l = name :: dir := by
  cases l with
  | nil => simp [nameIn?]
  | cons first above =>
      rw [nameIn?, List.cons.injEq]
      by_cases same : above = dir
      · simp [same]
      · simp [same]

theorem namesIn_eq (v : Volume) (dir : Location) :
    v.namesIn dir = (v.entries.map Prod.fst).filterMap (nameIn? dir) := by
  rw [List.filterMap_map]
  rfl

/-- The names of a directory are those of its entries. -/
theorem mem_namesIn (wf : v.WellFormed) :
    name ∈ v.namesIn dir ↔ ∃ e, v.entry? (name :: dir) = some e := by
  simp only [wf.entry?_eq_some_iff (List.cons_ne_nil name dir), namesIn_eq, List.mem_filterMap,
    nameIn?_eq_some_iff, exists_eq_right, List.mem_map, Prod.exists]
  constructor
  · rintro ⟨l, e, member, rfl⟩
    exact ⟨e, member⟩
  · rintro ⟨e, member⟩
    exact ⟨name :: dir, e, member, rfl⟩

theorem namesIn_nodup (wf : v.WellFormed) (dir : Location) : (v.namesIn dir).Nodup := by
  rw [namesIn_eq]
  apply wf.distinct.filterMap
  intro l m name first second
  rw [nameIn?_eq_some_iff.mp first, nameIn?_eq_some_iff.mp second]

/-- The names come in the order of their characters, each of them once. -/
theorem sortedNames_pairwise (wf : v.WellFormed) (dir : Location) :
    (v.sortedNames dir).Pairwise (· < ·) := by
  have perm := List.mergeSort_perm (v.namesIn dir) fun a b => !decide (b < a)
  have distinct : (v.sortedNames dir).Nodup := perm.nodup_iff.mpr (namesIn_nodup wf dir)
  have ordered : (v.sortedNames dir).Pairwise fun a b => a ≤ b := by
    have transitive (a b c : String) (below : (!decide (b < a)) = true)
        (above : (!decide (c < b)) = true) : (!decide (c < a)) = true := by
      simp only [Bool.not_eq_true', decide_eq_false_iff_not, String.not_lt] at below above ⊢
      exact String.le_trans below above
    have total (a b : String) : (!decide (b < a) || !decide (a < b)) = true := by
      simp only [Bool.or_eq_true, Bool.not_eq_true', decide_eq_false_iff_not, String.not_lt]
      exact String.le_total a b
    have result := List.pairwise_mergeSort transitive total (v.namesIn dir)
    simpa only [sortedNames, Bool.not_eq_true', decide_eq_false_iff_not, String.not_lt]
      using result
  exact ordered.imp₂ (fun a b below apart => String.not_le.mp fun above =>
    apart (String.le_antisymm below above)) distinct

theorem mem_sortedNames (wf : v.WellFormed) :
    name ∈ v.sortedNames dir ↔ ∃ e, v.entry? (name :: dir) = some e := by
  rw [sortedNames, List.mem_mergeSort, mem_namesIn wf]

/-! ## Asking about one name -/

/-- A path that cannot be asked about: its text, or a name on the way, is too long. -/
def TooLong (v : Volume) (cwd p : Path) : Prop :=
  v.look cwd p = .error (.code .nameTooLong)

theorem clean_child (clean : Path.hasNull p.text = false) (named : IsName name) :
    Path.hasNull (p.child name).text = false := by
  rw [← Bool.not_eq_true, Path.hasNull_text] at clean ⊢
  rintro ⟨part, member, null⟩
  rcases List.mem_append.mp member with above | last
  · exact clean ⟨part, above, null⟩
  · rw [List.mem_singleton.mp last, named.2.2.2.2] at null
    cases null

/-- What stands directly inside a directory is found below the path of the directory, unless this
is too long to be followed. -/
theorem look_child (wf : v.WellFormed) (found : v.find .followed cwd p = .ok dir)
    (there : v.entry? (name :: dir) = some e) (noLink : ∀ target, e ≠ .link target) :
    v.look cwd (p.child name) = .ok e ∨ v.TooLong cwd (p.child name) := by
  obtain ⟨clean, -, walked, -⟩ := find_ok found
  have named := wf.isName there
  have directory := wf.directory_above there
  have clean' := clean_child clean named
  by_cases long : pathLimit ≤ octetLength (p.child name).text
  · right
    simp [TooLong, look, find, reach, clean', long]
  -- Only the last step is new; it follows no link, however many are left.
  obtain ⟨left, -, on⟩ := walk_append (List.cons_ne_nil name []) walked
  by_cases fits : octetLength name ≤ nameLimit
  · left
    rw [walk_down named fits directory there noLink, walk] at on
    exact look_of_find (find_of_walk clean' (Nat.not_le.mp long) on there) there
  · right
    rw [walk_tooLong named (Nat.not_le.mp fits) directory] at on
    exact look_of_walk_tooLong clean' on

/-- A regular file stands directly inside a directory: a file, or a link that leads to one. -/
def HasFile (v : Volume) (cwd p : Path) (dir : Location) (name : String) : Prop :=
  (∃ id, v.entry? (name :: dir) = some (.file id)) ∨
    (∃ target, v.entry? (name :: dir) = some (.link target)) ∧ v.isFile cwd (p.child name) = true

theorem hasFile_iff (wf : v.WellFormed) (found : v.find .followed cwd p = .ok dir)
    (there : v.entry? (name :: dir) = some e) (fits : ¬v.TooLong cwd (p.child name)) :
    v.HasFile cwd p dir name ↔ v.isFile cwd (p.child name) = true := by
  cases e with
  | file id =>
      have seen := (look_child wf found there (by simp)).resolve_right fits
      simp [HasFile, there, isFile, seen, isRegular]
  | directory =>
      have seen := (look_child wf found there (by simp)).resolve_right fits
      simp [HasFile, there, isFile, seen, isRegular]
  | link target => simp [HasFile, there]

theorem ask_ok (asked : v.ask cwd p isRegular = .ok b) :
    ¬v.TooLong cwd p ∧ b = v.isFile cwd p := by
  rw [ask] at asked
  rw [TooLong, isFile]
  cases seen : v.look cwd p with
  | ok e =>
      rw [seen] at asked
      exact ⟨by simp, (Except.ok.inj asked).symm⟩
  | error r =>
      rw [seen] at asked
      dsimp only at asked
      split at asked
      next absent =>
        refine ⟨?_, (Except.ok.inj asked).symm⟩
        rintro same
        cases same
        cases absent
      next => cases asked

/-! ## The files in a directory -/

/-- Of paths that can all be asked about, those of regular files are kept. -/
theorem regularFiles_ok (kept : v.regularFiles cwd ps = .ok qs) :
    (∀ p ∈ ps, ¬v.TooLong cwd p) ∧ qs = ps.filter (v.isFile cwd) := by
  induction ps generalizing qs with
  | nil =>
      cases kept
      exact ⟨by simp, rfl⟩
  | cons p ps ih =>
      rw [regularFiles] at kept
      split at kept
      next => cases kept
      next b asked =>
        obtain ⟨rest, others, rfl⟩ := map_ok_iff.mp kept
        obtain ⟨fits, here⟩ := ask_ok asked
        obtain ⟨fit, same⟩ := ih others
        refine ⟨List.forall_mem_cons.mpr ⟨fits, fit⟩, ?_⟩
        rw [List.filter_cons, here, same]

theorem regularFiles_error (failed : v.regularFiles cwd ps = .error f) :
    ∃ p ∈ ps, v.TooLong cwd p ∧ f = .system .nameTooLong p.text none := by
  induction ps with
  | nil => cases failed
  | cons p ps ih =>
      rw [regularFiles] at failed
      split at failed
      next f' refused =>
        cases failed
        exact ⟨p, List.mem_cons_self, ask_error refused⟩
      next =>
        obtain ⟨q, member, long⟩ := ih (map_error_iff.mp failed)
        exact ⟨q, List.mem_cons_of_mem p member, long⟩

/-- A listing has just the regular files directly inside the directory, strictly in the order of
their names. -/
theorem filesIn?_ok (wf : v.WellFormed) (found : v.find .followed cwd p = .ok dir)
    (listed : v.filesIn? cwd p = .ok ps) :
    (∀ name e, v.entry? (name :: dir) = some e → ¬v.TooLong cwd (p.child name)) ∧
      ps.Pairwise (fun q r => q.name < r.name) ∧
      ∀ q, q ∈ ps ↔ ∃ name, q = p.child name ∧ v.HasFile cwd p dir name := by
  rw [filesIn?, found] at listed
  dsimp only at listed
  split at listed
  next =>
    obtain ⟨fit, rfl⟩ := regularFiles_ok listed
    have fits : ∀ name e, v.entry? (name :: dir) = some e → ¬v.TooLong cwd (p.child name) :=
      fun name e there => fit _ (List.mem_map_of_mem ((mem_sortedNames wf).mpr ⟨e, there⟩))
    refine ⟨fits, ?_, fun q => ?_⟩
    · apply List.Pairwise.filter
      rw [List.pairwise_map]
      refine (sortedNames_pairwise wf dir).imp fun {a b} below => ?_
      rwa [Path.name_child, Path.name_child]
    · rw [List.mem_filter, List.mem_map]
      constructor
      · rintro ⟨⟨name, member, rfl⟩, isFile⟩
        obtain ⟨e, there⟩ := (mem_sortedNames wf).mp member
        exact ⟨name, rfl, (hasFile_iff wf found there (fits name e there)).mpr isFile⟩
      · rintro ⟨name, rfl, here⟩
        obtain ⟨e, there⟩ : ∃ e, v.entry? (name :: dir) = some e := by
          rcases here with ⟨id, there⟩ | ⟨⟨target, there⟩, -⟩ <;> exact ⟨_, there⟩
        exact ⟨⟨name, (mem_sortedNames wf).mpr ⟨e, there⟩, rfl⟩,
          (hasFile_iff wf found there (fits name e there)).mp here⟩
  next => cases listed

/-- A directory cannot be listed only if one of its names cannot be asked about. -/
theorem filesIn?_error (wf : v.WellFormed) (found : v.find .followed cwd p = .ok dir)
    (directory : v.entry? dir = some .directory) (failed : v.filesIn? cwd p = .error f) :
    ∃ name e, v.entry? (name :: dir) = some e ∧ v.TooLong cwd (p.child name) ∧
      f = .system .nameTooLong (p.child name).text none := by
  rw [filesIn?, found] at failed
  dsimp only at failed
  rw [if_pos directory] at failed
  obtain ⟨q, member, long, same⟩ := regularFiles_error failed
  obtain ⟨name, inside, rfl⟩ := List.mem_map.mp member
  obtain ⟨e, there⟩ := (mem_sortedNames wf).mp inside
  exact ⟨name, e, there, long, same⟩

end MediaNaming.Volume
