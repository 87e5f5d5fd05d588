import MediaNaming.Proofs.Volume.Walk
/-!
# What renaming does to a tree

A renaming that the operating system accepts either finds two entries of one file and does
nothing, or moves the entry at the source, with what lies below it, to the target. Everything
about a single renaming is derived from `Volume.Renamed`, which says just that.
-/

namespace MediaNaming.Volume

open MediaNaming.Path (IsName)

variable {v w : Volume} {source target l : Location}

/-! ## Spots -/

theorem spot?_ok {cwd p : Path} {s : Spot} (found : v.spot? cwd p = .ok (some s)) :
    v.walk .followed linkLimit (start cwd p) p.parts.dropLast = .ok s.dir ∧
      v.entry? s.dir = some .directory ∧ p.parts = p.parts.dropLast ++ [s.name] := by
  simp only [spot?] at found
  split at found
  next => cases found
  next dir walked =>
    split at found
    next => cases found
    next name directory last =>
      split at found
      next => cases found
      next =>
        cases found
        exact ⟨walked, directory, (List.dropLast_append_getLast? name last).symm⟩
    next => cases found
    next => cases found

/-- Two names in one directory are looked up in one directory. -/
theorem spot?_siblings {cwd p : Path} {name : String} {s t : Spot}
    (first : v.spot? cwd p = .ok (some s))
    (second : v.spot? cwd (p.parent.child name) = .ok (some t)) :
    t.dir = s.dir ∧ t.name = name := by
  rcases spot?_ok first with ⟨firstWalk, -, -⟩
  rcases spot?_ok second with ⟨secondWalk, -, secondParts⟩
  simp only [Path.child, Path.parent, List.dropLast_concat, List.append_cancel_left_eq,
    List.cons.injEq, and_true] at secondWalk secondParts
  have sameStart : start cwd { p with parts := p.parts.dropLast ++ [name] } = start cwd p := rfl
  rw [sameStart, firstWalk] at secondWalk
  exact ⟨(Except.ok.inj secondWalk).symm, secondParts.symm⟩

/-- A path whose last name is no link is found at its own spot. -/
theorem find_of_spot? {cwd p : Path} {s : Spot} {e : Entry} (wf : v.WellFormed)
    (spot : v.spot? cwd p = .ok (some s)) (there : v.entry? s.location = some e)
    (noLink : ∀ target, e ≠ .link target) (fits : octetLength s.name ≤ nameLimit)
    (clean : Path.hasNull p.text = false) (short : octetLength p.text < pathLimit) :
    v.find .followed cwd p = .ok s.location := by
  rcases spot?_ok spot with ⟨walked, directory, parts⟩
  rcases walk_append (List.cons_ne_nil s.name []) walked with ⟨left, -, continued⟩
  have notLinked : ∀ target, v.entry? (s.name :: s.dir) ≠ some (.link target) := by
    intro target link
    exact noLink target (Option.some.inj (there.symm.trans link))
  rw [← parts, walk_name (wf.isName there) fits directory notLinked] at continued
  exact find_of_walk clean short continued there

/-! ## One renaming -/

/-- The ways in which a renaming succeeds. -/
inductive Renamed (v : Volume) (source target : Location) : Volume → Prop where
  /-- Both entries name one file, and nothing happens. -/
  | linked {id : Nat} (same : v.entry? source = some (.file id))
      (other : v.entry? target = some (.file id)) : Renamed v source target v
  | moved {e : Entry} (present : v.entry? source = some e) (movable : v.Movable source target) :
      Renamed v source target (v.move source target)

/-- Two places are one only if they hold one file. -/
theorem identity_eq {l m : Location} (different : l ≠ m) (same : v.identity l = v.identity m) :
    ∃ id, v.entry? l = some (.file id) ∧ v.entry? m = some (.file id) := by
  simp only [identity] at same
  split at same <;> split at same
  next left _ _ right =>
    cases same
    exact ⟨_, left, right⟩
  next => cases same
  next => cases same
  next =>
    cases same
    exact absurd rfl different

theorem entryAt?_ok {s : Spot} {found : Option Entry} (asked : v.entryAt? s = .ok found) :
    octetLength s.name ≤ nameLimit ∧ v.entry? s.location = found := by
  simp only [entryAt?] at asked
  split at asked
  next => cases asked
  next fits =>
    cases asked
    exact ⟨Nat.not_lt.mp fits, rfl⟩

/-- Nothing lies below an empty directory. -/
theorem clear_of_namesIn (wf : v.WellFormed) (empty : (v.namesIn target).isEmpty = true)
    (suffix : target <:+ l) (proper : l ≠ target) : v.entry? l = none := by
  cases there : v.entry? l with
  | none => rfl
  | some e =>
      rcases suffix with ⟨names, rfl⟩
      have nonempty : names ≠ [] := by
        rintro rfl
        exact proper rfl
      rcases (List.eq_nil_or_concat names).resolve_left nonempty with ⟨front, name, rfl⟩
      have child : ∃ f, v.entry? (name :: target) = some f := by
        cases front with
        | nil => exact ⟨e, by simpa using there⟩
        | cons first front =>
            refine ⟨.directory, wf.directory_of_suffix there ⟨first :: front, by simp⟩ ?_⟩
            intro equal
            have lengths := congrArg List.length equal
            simp only [List.concat_eq_append, List.length_append, List.length_cons] at lengths
            omega
      rcases child with ⟨f, childEntry⟩
      have member := (wf.entry?_eq_some_iff (List.cons_ne_nil name target)).mp childEntry
      have listed : name ∈ v.namesIn target := by
        simp only [namesIn, List.mem_filterMap]
        exact ⟨(name :: target, f), member, by simp⟩
      rw [List.isEmpty_iff.mp empty] at listed
      cases listed

/-- Names in one directory lie apart. -/
theorem siblings_apart {dir : Location} {name other : String} (different : name ≠ other) :
    ¬name :: dir <:+ other :: dir := by
  intro suffix
  have equal := suffix.eq_of_length rfl
  simp only [List.cons.injEq, and_true] at equal
  exact different equal

theorem moveTo_renamed {s t : Spot} (wf : v.WellFormed) (sameDir : t.dir = s.dir)
    (different : s.name ≠ t.name) (named : IsName t.name)
    (directory : v.entry? t.dir = some .directory) (accepted : v.moveTo s t = .ok w) :
    Renamed v s.location t.location w := by
  have movable (clear : ∀ l, t.location <:+ l → l ≠ t.location → v.entry? l = none) :
      v.Movable s.location t.location := by
    refine ⟨?_, ?_, clear, named, directory⟩
    · rw [Spot.location, Spot.location, sameDir]
      exact siblings_apart different
    · rw [Spot.location, Spot.location, sameDir]
      exact siblings_apart (Ne.symm different)
  have apart : s.location ≠ t.location := by
    intro equal
    exact different (List.cons.inj equal).1
  simp only [moveTo] at accepted
  split at accepted
  next => cases accepted
  next => cases accepted
  next moved asked =>
    rcases entryAt?_ok asked with ⟨-, present⟩
    split at accepted
    next => cases accepted
    next there askedTarget =>
      rcases entryAt?_ok askedTarget with ⟨-, atTarget⟩
      split at accepted
      next => cases accepted
      split at accepted
      next => cases accepted
      split at accepted
      next same =>
        cases accepted
        rcases identity_eq apart same with ⟨id, left, right⟩
        exact .linked left right
      split at accepted
      next =>
        cases accepted
        exact .moved present (movable fun l => wf.entry?_below (by simp [atTarget]))
      next =>
        split at accepted
        next empty =>
          cases accepted
          exact .moved present (movable fun l => clear_of_namesIn wf empty)
        next => cases accepted
      next => cases accepted
      next => cases accepted
      next _ _ notDirectory _ _ =>
        cases accepted
        refine .moved present (movable fun l => wf.entry?_below ?_)
        rw [atTarget]
        simpa using notDirectory

theorem moveTo_fits {s t : Spot} (accepted : v.moveTo s t = .ok w) :
    octetLength s.name ≤ nameLimit ∧ octetLength t.name ≤ nameLimit := by
  simp only [moveTo] at accepted
  split at accepted
  next => cases accepted
  next => cases accepted
  next moved asked =>
    split at accepted
    next => cases accepted
    next there askedTarget => exact ⟨(entryAt?_ok asked).1, (entryAt?_ok askedTarget).1⟩

/-- What an accepted renaming to another name in the same directory has met. -/
structure Accepted (v : Volume) (cwd p : Path) (name : String) (w : Volume) (s t : Spot) :
    Prop where
  sourceSpot : v.spot? cwd p = .ok (some s)
  targetSpot : v.spot? cwd (p.parent.child name) = .ok (some t)
  sameDir : t.dir = s.dir
  sameName : t.name = name
  different : s.name ≠ name
  renamed : Renamed v s.location t.location w
  sourceFound : ∀ {e : Entry}, v.entry? s.location = some e → (∀ text, e ≠ .link text) →
    v.find .followed cwd p = .ok s.location
  targetFound : ∀ {e : Entry}, v.entry? t.location = some e → (∀ text, e ≠ .link text) →
    v.find .followed cwd (p.parent.child name) = .ok t.location

theorem rename?_ok {cwd p q : Path} (renamed : v.rename? cwd p q = .ok w) :
    Path.hasNull p.text = false ∧ Path.hasNull q.text = false ∧
      v.renameCode cwd p q = .ok w := by
  simp only [rename?] at renamed
  split at renamed
  next => cases renamed
  next clean =>
    simp only [Bool.or_eq_true, not_or, Bool.not_eq_true] at clean
    split at renamed
    next code =>
      cases renamed
      exact ⟨clean.1, clean.2, code⟩
    next => cases renamed

theorem renameCode_ok {cwd p q : Path} (renamed : v.renameCode cwd p q = .ok w) :
    octetLength p.text < pathLimit ∧ octetLength q.text < pathLimit ∧
      ∃ s t, v.spot? cwd p = .ok (some s) ∧ v.spot? cwd q = .ok (some t) ∧
        v.moveTo s t = .ok w := by
  simp only [renameCode] at renamed
  split at renamed
  next => cases renamed
  next short =>
    simp only [Bool.or_eq_true, decide_eq_true_eq, not_or, Nat.not_le] at short
    split at renamed
    next => cases renamed
    next source sourceSpot =>
      split at renamed
      next => cases renamed
      next target targetSpot =>
        split at renamed
        next s t => exact ⟨short.1, short.2, s, t, sourceSpot, targetSpot, renamed⟩
        next => cases renamed

theorem rename?_accepted {cwd p : Path} {name : String} (wf : v.WellFormed)
    (named : IsName name) (different : p.parent.child name ≠ p)
    (renamed : v.rename? cwd p (p.parent.child name) = .ok w) :
    ∃ s t, Accepted v cwd p name w s t := by
  rcases rename?_ok renamed with ⟨sourceClean, targetClean, code⟩
  rcases renameCode_ok code with ⟨sourceShort, targetShort, s, t, sourceSpot, targetSpot, moved⟩
  rcases spot?_siblings sourceSpot targetSpot with ⟨sameDir, rfl⟩
  have otherName : s.name ≠ t.name := by
    intro same
    apply different
    rcases spot?_ok sourceSpot with ⟨-, -, parts⟩
    simp only [Path.child, Path.parent]
    rw [← same, ← parts]
  rcases moveTo_fits moved with ⟨sourceFits, targetFits⟩
  refine ⟨s, t, ?_⟩
  exact {
    sourceSpot := sourceSpot
    targetSpot := targetSpot
    sameDir := sameDir
    sameName := rfl
    different := otherName
    renamed := moveTo_renamed wf sameDir otherName named (spot?_ok targetSpot).2.1 moved
    sourceFound := fun there noLink =>
      find_of_spot? wf sourceSpot there noLink sourceFits sourceClean sourceShort
    targetFound := fun there noLink =>
      find_of_spot? wf targetSpot there noLink targetFits targetClean targetShort }

namespace Renamed

theorem wellFormed (renamed : Renamed v source target w) (wf : v.WellFormed) : w.WellFormed := by
  cases renamed with
  | linked => exact wf
  | moved _ movable => exact move_wellFormed wf movable

/-- Renaming changes no octets. -/
theorem contents (renamed : Renamed v source target w) : w.contents = v.contents := by
  cases renamed with
  | linked => rfl
  | moved => rfl

theorem source_present (renamed : Renamed v source target w) :
    ∃ e, v.entry? source = some e := by
  cases renamed with
  | linked same => exact ⟨_, same⟩
  | moved present => exact ⟨_, present⟩

/-- The entry at the source stands at the target afterwards. -/
theorem entry?_target (renamed : Renamed v source target w) (wf : v.WellFormed) :
    w.entry? target = v.entry? source := by
  cases renamed with
  | linked same other => rw [same, other]
  | moved _ movable => exact entry?_move_target wf movable []

theorem source_not_suffix (renamed : Renamed v source target w)
    (different : v.entry? source ≠ v.entry? target) : ¬source <:+ target := by
  cases renamed with
  | linked same other => exact absurd (same.trans other.symm) different
  | moved _ movable => exact movable.notInto

/-- An entry stays, is moved with the source, or gives way at the target. -/
theorem entry?_kept_or (renamed : Renamed v source target w) (wf : v.WellFormed) {e : Entry}
    (there : v.entry? l = some e) : w.entry? l = some e ∨ source <:+ l ∨ l = target := by
  cases renamed with
  | linked => exact Or.inl there
  | moved _ movable =>
      by_cases moved : source <:+ l
      · exact Or.inr (Or.inl moved)
      by_cases onto : target <:+ l
      · refine Or.inr (Or.inr ?_)
        by_contra proper
        rw [movable.clear l onto proper] at there
        cases there
      · rw [entry?_move_other wf movable moved onto]
        exact Or.inl there

/-- Every entry but the one at the target still stands somewhere. -/
theorem entry?_survives (renamed : Renamed v source target w) (wf : v.WellFormed) {e : Entry}
    (there : v.entry? l = some e) (notTarget : l ≠ target) : ∃ m, w.entry? m = some e := by
  rcases renamed.entry?_kept_or wf there with kept | below | equal
  · exact ⟨l, kept⟩
  · cases renamed with
    | linked => exact ⟨l, there⟩
    | moved _ movable =>
        rcases below with ⟨names, rfl⟩
        exact ⟨names ++ target, (entry?_move_target wf movable names).trans there⟩
  · exact absurd equal notTarget

/-- Renaming makes no entry: each one stood somewhere before, and not at the target unless
nothing happened. -/
theorem entry?_origin (renamed : Renamed v source target w) (wf : v.WellFormed) {e : Entry}
    (there : w.entry? l = some e) :
    ∃ m, v.entry? m = some e ∧ (m = target → v.entry? source = v.entry? target) := by
  cases renamed with
  | linked same other => exact ⟨l, there, fun _ => same.trans other.symm⟩
  | moved _ movable =>
      by_cases onto : target <:+ l
      · rcases onto with ⟨names, rfl⟩
        rw [entry?_move_target wf movable names] at there
        refine ⟨names ++ source, there, ?_⟩
        intro equal
        exact absurd ⟨names, equal⟩ movable.notInto
      by_cases moved : source <:+ l
      · rcases moved with ⟨names, rfl⟩
        rw [entry?_move_source wf movable names] at there
        cases there
      · rw [entry?_move_other wf movable moved onto] at there
        refine ⟨l, there, ?_⟩
        rintro rfl
        exact absurd (List.suffix_refl l) onto

end Renamed

/-- At the root, renaming is what becomes of the two entries. -/
theorem rename?_root {name other : String} (named : IsName name) (otherNamed : IsName other)
    (fits : octetLength name ≤ nameLimit) (otherFits : octetLength other ≤ nameLimit)
    (moved : v.moveTo ⟨[], name⟩ ⟨[], other⟩ = .ok w) :
    v.rename? ⟨.root, []⟩ ⟨.root, [name]⟩ ⟨.root, [other]⟩ = .ok w := by
  have spot : ∀ part : String, IsName part →
      v.spot? ⟨.root, []⟩ ⟨.root, [part]⟩ = .ok (some ⟨[], part⟩) := by
    intro part partNamed
    simp [spot?, walk, start, partNamed.2.2.1]
  have short : ∀ part : String, octetLength part ≤ nameLimit →
      ¬pathLimit ≤ octetLength (Path.text ⟨.root, [part]⟩) := by
    intro part partFits
    exact Nat.not_le.mpr (short_root partFits)
  simp [rename?, renameCode, clean_root named, clean_root otherNamed, short name fits,
    short other otherFits, spot name named, spot other otherNamed, moved]

end MediaNaming.Volume
