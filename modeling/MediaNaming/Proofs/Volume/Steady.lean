import MediaNaming.Proofs.Volume.Reachable
/-!
# Walks in trees that change

A walk asks for directories and links. It therefore ends where it did before in every tree that
still has them, if something other than a link stands at its end. Moving a file to a free place
keeps all directories, so the paths of the other files lead to them as before.
-/

namespace MediaNaming.Volume

open MediaNaming.Path (IsName)

variable {v w : Volume} {cwd p q : Path} {here l dir : Location} {links : Nat}
  {names : List String} {name other : String} {id : Nat}

/-! ## What a walk depends on -/

/-- A tree that still has the directories and the links of another one. -/
def Keeps (v w : Volume) : Prop :=
  ∀ k e, v.entry? k = some e → (∀ id, e ≠ .file id) → w.entry? k = some e

/-- Only a directory is walked on from. -/
theorem directory_of_walk (reached : v.walk .followed links here (name :: names) = .ok l) :
    v.entry? here = some .directory := by
  rw [walk] at reached
  split at reached
  next => cases reached
  next =>
    split at reached
    next => cases reached
    next directory => exact Decidable.not_not.mp directory

/-- A walk also leads to an entry that has been made at its end. -/
theorem walk_keeps (kept : Keeps v w) (reached : v.walk .followed links here names = .ok l)
    {e : Entry} (after : w.entry? l = some e) (noLink : ∀ target, e ≠ .link target) :
    w.walk .followed links here names = .ok l := by
  have directoryKept : ∀ {k : Location}, ¬v.entry? k ≠ some .directory →
      w.entry? k = some .directory := by
    intro k directory
    exact kept k .directory (Decidable.not_not.mp directory) (by simp)
  fun_induction walk v .followed links here names with
  | case1 links here =>
      cases reached
      rw [walk]
  | case2 | case3 | case6 | case7 | case9 | case11 => cases reached
  | case4 links here name rest there directory skipped ih =>
      rw [walk]
      simp only [directoryKept directory, skipped, ↓reduceIte]
      exact ih reached
  | case5 links here rest there directory named ih =>
      rw [walk]
      simp only [directoryKept directory, named, ↓reduceIte]
      exact ih reached
  | case8 links here name rest there directory named notUp notMade fits absent last =>
      cases reached
      rw [walk]
      simp only [directoryKept directory, named, notUp, fits, after, ↓reduceIte]
      rw [List.isEmpty_iff.mp last]
      cases e with
      | link target => exact absurd rfl (noLink target)
      | directory | file id => simp [walk]
  | case10 links here name rest there directory named notUp notMade fits target link last =>
      simp at last
  | case12 here name rest there directory named notUp notMade fits target link notLast k ih =>
      have linkKept : w.entry? (name :: here) = some (.link target) :=
        kept _ _ link (by simp)
      rw [walk]
      simp only [directoryKept directory, named, notUp, fits, linkKept, ↓reduceIte]
      simpa using ih reached
  | case13 links here name rest there directory named notUp notMade fits f notLink present ih =>
      have still : ∃ g, w.entry? (name :: here) = some g ∧ ∀ target, g ≠ .link target := by
        cases rest with
        | nil =>
            rw [walk] at reached
            cases reached
            exact ⟨e, after, noLink⟩
        | cons next rest =>
            exact ⟨.directory, kept _ _ (directory_of_walk reached) (by simp), by simp⟩
      obtain ⟨g, stands, notLinked⟩ := still
      rw [walk]
      simp only [directoryKept directory, named, notUp, fits, stands, ↓reduceIte]
      cases g with
      | link target => exact absurd rfl (notLinked target)
      | directory | file id => simpa using ih reached

/-- A path leads to an entry in every tree that keeps the way to it. -/
theorem find_keeps (kept : Keeps v w) (found : v.find .followed cwd p = .ok l) {e : Entry}
    (after : w.entry? l = some e) (noLink : ∀ target, e ≠ .link target) :
    w.find .followed cwd p = .ok l := by
  obtain ⟨clean, short, walked, -⟩ := find_ok found
  exact find_of_walk clean short (walk_keeps kept walked after noLink) after

/-! ## Absolute paths -/

theorem parts_of_place (place : p.place = name :: dir) : p.parts = dir.reverse ++ [name] := by
  have reversed := congrArg List.reverse place
  rw [Path.place, List.reverse_reverse] at reversed
  rw [reversed, List.reverse_cons]

namespace Acceptable

variable (acceptable : Acceptable p) (place : p.place = name :: dir)

include acceptable place

theorem fits_name : octetLength name ≤ nameLimit := by
  apply acceptable.fits
  rw [parts_of_place place]
  simp

variable (wf : v.WellFormed) (directory : v.entry? dir = some .directory)

include wf directory

/-- The directory that an acceptable path is looked up in is the one above its place. -/
theorem walk_above : v.walk .followed linkLimit (start cwd p) dir.reverse = .ok dir := by
  rw [start, if_neg acceptable.anchored]
  apply walk_to_directory wf linkLimit _ directory
  intro part member
  apply acceptable.fits
  rw [parts_of_place place]
  exact List.mem_append_left _ (List.mem_reverse.mpr member)

theorem spot? : v.spot? cwd p = .ok (some ⟨dir, name⟩) := by
  have notUp : name ≠ ".." := by
    intro up
    apply acceptable.noUp
    rw [parts_of_place place, up]
    simp
  rw [Volume.spot?, parts_of_place place, List.dropLast_concat,
    acceptable.walk_above place wf directory]
  simp [directory, notUp]

/-- Where nothing stands at its place, an acceptable path leads to nothing. -/
theorem find_absent (named : IsName name) (absent : v.entry? p.place = none) :
    v.find .followed cwd p = .error (.code .missing) := by
  have walked : v.walk .followed linkLimit (start cwd p) dir.reverse = .ok dir :=
    acceptable.walk_above place wf directory
  obtain ⟨left, -, continued⟩ := walk_append (List.cons_ne_nil name []) walked
  rw [place] at absent
  have noLink : ∀ target, v.entry? (name :: dir) ≠ some (.link target) := by simp [absent]
  rw [← parts_of_place place, walk_name named (acceptable.fits_name place) directory noLink]
    at continued
  exact find_of_walk_absent acceptable.clean acceptable.short continued absent

end Acceptable

/-! ## Moving a file -/

/-- A free place next to a file can take the file. -/
theorem movable_of_file (wf : v.WellFormed) (file : v.entry? (name :: dir) = some (.file id))
    (absent : v.entry? (other :: dir) = none) (named : IsName other) :
    v.Movable (name :: dir) (other :: dir) := by
  have different : name ≠ other := by
    intro same
    rw [same, absent] at file
    cases file
  constructor
  · exact siblings_apart different
  · exact siblings_apart different.symm
  · intro l
    apply wf.entry?_below
    simp [absent]
  · exact named
  · exact wf.directory_above file

theorem moveTo_of_file (file : v.entry? (name :: dir) = some (.file id))
    (absent : v.entry? (other :: dir) = none) (fits : octetLength name ≤ nameLimit)
    (otherFits : octetLength other ≤ nameLimit) :
    v.moveTo ⟨dir, name⟩ ⟨dir, other⟩ = .ok (v.move (name :: dir) (other :: dir)) := by
  have outside : ∀ part : String, (part :: dir).isSuffixOf dir = false := by
    intro part
    rw [← Bool.not_eq_true, List.isSuffixOf_iff_suffix]
    intro suffix
    have short := suffix.length_le
    rw [List.length_cons] at short
    omega
  have apart : v.identity (name :: dir) ≠ v.identity (other :: dir) := by
    simp [identity, file, absent]
  simp [moveTo, entryAt?, Spot.location, Nat.not_lt.mpr fits, Nat.not_lt.mpr otherFits, file,
    absent, outside, apart]

/-- Renaming a file from one acceptable path to a free one in the same directory moves it. -/
theorem rename?_of_file (wf : v.WellFormed) (source : Acceptable p) (target : Acceptable q)
    (place : p.place = name :: dir) (targetPlace : q.place = other :: dir)
    (file : v.entry? p.place = some (.file id)) (absent : v.entry? q.place = none) :
    v.rename? cwd p q = .ok (v.move p.place q.place) := by
  rw [place] at file ⊢
  rw [targetPlace] at absent ⊢
  have directory := wf.directory_above file
  have moved := moveTo_of_file file absent (source.fits_name place)
    (target.fits_name targetPlace)
  simp [rename?, renameCode, source.clean, target.clean, Nat.not_le.mpr source.short,
    Nat.not_le.mpr target.short, source.spot? place wf directory,
    target.spot? targetPlace wf directory, moved]

/-- A tree with its entries at other locations. -/
def relabel (v : Volume) (f : Location → Location) : Volume :=
  { v with entries := v.entries.map fun e => (f e.1, e.2) }

/-- Moving a file to a free place changes one location. -/
theorem move_eq_relabel (wf : v.WellFormed) (file : v.entry? l = some (.file id)) {m : Location}
    (absent : v.entry? m = none) :
    v.move l m = v.relabel fun k => if k = l then m else k := by
  have kept : ∀ e ∈ v.entries, decide (e.1 ≠ m) = true := by
    intro e member
    apply decide_eq_true
    intro same
    have there := wf.entry?_of_mem member
    rw [same, absent] at there
    cases there
  have moved : ∀ e ∈ v.entries,
      (relocate l m e.1, e.2) = ((fun k => if k = l then m else k) e.1, e.2) := by
    intro e member
    by_cases same : e.1 = l
    · rw [same]
      simpa using relocate_append l m []
    · have outside : ¬l <:+ e.1 := by
        intro suffix
        have nothing := wf.entry?_below (by simp [file]) suffix same
        rw [wf.entry?_of_mem member] at nothing
        cases nothing
      simp [relocate_of_not_suffix m outside, same]
  rw [move, relabel, List.filter_eq_self.mpr kept, List.map_congr_left moved]

end MediaNaming.Volume
