import MediaNaming.Proofs.Volume.Renaming
/-!
# Trees of plain files

Without symbolic links a path can only lead to the place that its absolute form spells out, and
with one entry for each file a file is at one place. Moving a file to a free place keeps both,
and changes what `Volume.entry?` sees at two places.
-/

namespace MediaNaming

/-- The location that the names of an absolute path spell out. -/
def Path.place (p : Path) : Location :=
  p.parts.reverse

theorem Path.place_sibling (p : Path) (name : String) :
    (p.parent.child name).place = name :: p.place.tail := by
  simp [place, parent, child]

namespace Volume

open MediaNaming.Path (IsName)

variable {v : Volume} {cwd p : Path} {l m source target : Location} {id : Nat}

/-- Trees without links of either kind. -/
structure Plain (v : Volume) : Prop where
  wellFormed : v.WellFormed
  noLinks : v.hasNoLinks = true
  unique : v.fileIds.Nodup

instance (v : Volume) : Decidable v.Plain :=
  decidable_of_iff (v.WellFormed ∧ v.hasNoLinks = true ∧ v.fileIds.Nodup)
    ⟨fun laws => ⟨laws.1, laws.2.1, laws.2.2⟩,
      fun plain => ⟨plain.wellFormed, plain.noLinks, plain.unique⟩⟩

/-- The numbers that a list of entries gives to files tell its entries apart. -/
theorem eq_of_nodup_fileIds {α β : Type} {f : α → Option β} {xs : List α} {x y : α} {b : β}
    (distinct : (xs.filterMap f).Nodup) (left : x ∈ xs) (right : y ∈ xs) (atLeft : f x = some b)
    (atRight : f y = some b) : x = y := by
  induction xs with
  | nil => cases left
  | cons first rest ih =>
      cases here : f first with
      | none =>
          have notFirst : ∀ {z}, f z = some b → z ∈ first :: rest → z ∈ rest := by
            intro z atPlace member
            rcases List.mem_cons.mp member with rfl | later
            · rw [here] at atPlace
              cases atPlace
            · exact later
          rw [List.filterMap_cons_none here] at distinct
          exact ih distinct (notFirst atLeft left) (notFirst atRight right)
      | some c =>
          rw [List.filterMap_cons_some here, List.nodup_cons] at distinct
          have listed : ∀ {z}, f z = some b → z ∈ rest → b ∈ rest.filterMap f := by
            intro z atPlace member
            exact List.mem_filterMap.mpr ⟨z, member, atPlace⟩
          rcases List.mem_cons.mp left with rfl | leftLater <;>
            rcases List.mem_cons.mp right with rfl | rightLater
          · rfl
          · rw [here, Option.some.injEq] at atLeft
            subst atLeft
            exact absurd (listed atRight rightLater) distinct.1
          · rw [here, Option.some.injEq] at atRight
            subst atRight
            exact absurd (listed atLeft leftLater) distinct.1
          · exact ih distinct.2 leftLater rightLater

/-- A file is at one place. -/
theorem Plain.place_unique (plain : v.Plain) (left : v.entry? l = some (.file id))
    (right : v.entry? m = some (.file id)) : l = m := by
  have inside : ∀ {k : Location}, v.entry? k = some (.file id) → k ≠ [] := by
    rintro k there rfl
    rw [entry?_root] at there
    cases there
  have same : (l, Entry.file id) = (m, Entry.file id) :=
    eq_of_nodup_fileIds plain.unique (mem_entries_of_present (inside left) left)
      (mem_entries_of_present (inside right) right) rfl rfl
  exact (Prod.mk.inj same).1

/-! ## Places -/

/-- What is known of a path that can be followed. -/
theorem reach_ok {last : LastName} (reached : v.reach last cwd p = .ok l) :
    Path.hasNull p.text = false ∧ octetLength p.text < pathLimit ∧
      v.walk last linkLimit (start cwd p) p.parts = .ok l := by
  simp only [reach] at reached
  split at reached
  next => cases reached
  next clean =>
    split at reached
    next => cases reached
    next short =>
      cases followed : v.walk last linkLimit (start cwd p) p.parts with
      | error c =>
          rw [followed] at reached
          cases reached
      | ok m =>
          rw [followed] at reached
          cases reached
          exact ⟨eq_false_of_ne_true clean, Nat.not_le.mp short, rfl⟩

/-- What is known of a path that can be followed to an entry. -/
theorem find_ok (found : v.find .followed cwd p = .ok l) :
    Path.hasNull p.text = false ∧ octetLength p.text < pathLimit ∧
      v.walk .followed linkLimit (start cwd p) p.parts = .ok l ∧ ∃ e, v.entry? l = some e := by
  simp only [find] at found
  split at found
  next => cases found
  next reached =>
    split at found
    next there =>
      cases found
      obtain ⟨clean, short, followed⟩ := reach_ok reached
      exact ⟨clean, short, followed, Option.isSome_iff_exists.mp there⟩
    next => cases found

theorem walk_of_find (found : v.find .followed cwd p = .ok l) :
    v.walk .followed linkLimit (start cwd p) p.parts = .ok l :=
  (find_ok found).2.2.1

/-- A path leads to the place of its absolute form. -/
theorem find_eq_place (noLinks : v.hasNoLinks = true) (working : cwd.IsWorkingDirectory)
    (normal : p.IsNormal) (found : v.find .followed cwd p = .ok l) :
    l = (Path.absolute cwd p).place := by
  rw [walk_eq_descend noLinks normal (walk_of_find found), Path.place,
    Path.absolute_parts_reverse working]
  rfl

/-- What a path names as a file is a file somewhere. -/
theorem find_of_isFile (isFile : v.isFile cwd p = true) :
    ∃ l id, v.find .followed cwd p = .ok l ∧ v.entry? l = some (.file id) := by
  simp only [Volume.isFile, look] at isFile
  cases found : v.find .followed cwd p with
  | error r =>
      rw [found] at isFile
      cases isFile
  | ok l =>
      rw [found] at isFile
      dsimp only at isFile
      cases there : v.entry? l with
      | none =>
          rw [there] at isFile
          cases isFile
      | some e =>
          cases e with
          | file id => exact ⟨l, id, rfl, there⟩
          | directory | link target =>
              rw [there] at isFile
              cases isFile

/-- What a path names as a file is the file at its place. -/
theorem file_at_place (noLinks : v.hasNoLinks = true) (working : cwd.IsWorkingDirectory)
    (normal : p.IsNormal) (isFile : v.isFile cwd p = true) :
    ∃ id, v.find .followed cwd p = .ok (Path.absolute cwd p).place ∧
      v.entry? (Path.absolute cwd p).place = some (.file id) := by
  obtain ⟨l, id, found, there⟩ := find_of_isFile isFile
  have same := find_eq_place noLinks working normal found
  rw [same] at found there
  exact ⟨id, found, there⟩

/-- Following `..` at last leads to a directory. -/
theorem walk_up {links : Nat} {names : List String} (wf : v.WellFormed)
    (up : names.getLast? = some "..") (reached : v.walk .followed links m names = .ok l) :
    v.entry? l = some .directory := by
  fun_induction walk v .followed links m names with
  | case1 => cases up
  | case2 | case3 | case6 | case7 | case9 | case11 => cases reached
  | case4 links here name rest there directory skipped ih =>
      apply ih _ reached
      cases rest with
      | nil =>
          cases up
          simp at skipped
      | cons other rest => simpa using up
  | case5 links here rest there directory named ih =>
      cases rest with
      | nil =>
          rw [walk] at reached
          cases reached
          cases here with
          | nil => simp
          | cons name above => exact wf.directory_above (Decidable.not_not.mp directory)
      | cons other rest =>
          apply ih _ reached
          simpa using up
  | case8 links here name rest there directory named notUp notMade fits absent last =>
      rw [List.isEmpty_iff.mp last] at up
      cases up
      exact absurd rfl notUp
  | case10 links here name rest there directory named notUp notMade fits text link last =>
      simp at last
  | case12 here name rest there directory named notUp notMade fits text link notLast k ih =>
      apply ih _ reached
      cases rest with
      | nil =>
          cases up
          exact absurd rfl notUp
      | cons other rest => simpa using up
  | case13 links here name rest there directory named notUp notMade fits e notLink present ih =>
      apply ih _ reached
      cases rest with
      | nil =>
          cases up
          exact absurd rfl notUp
      | cons other rest => simpa using up

/-- The path of a file ends in a name. -/
theorem last_of_file (wf : v.WellFormed) (inside : v.entry? cwd.place = some .directory)
    (found : v.find .followed cwd p = .ok l) (there : v.entry? l = some (.file id)) :
    p = p.parent.child p.name ∧ p.name ≠ ".." := by
  have walked := walk_of_find found
  have noDirectory : v.entry? l ≠ some .directory := by simp [there]
  cases last : p.parts.getLast? with
  | none =>
      -- such a path leads to the working directory or to the root
      rw [List.getLast?_eq_none_iff.mp last, walk] at walked
      cases walked
      apply absurd _ noDirectory
      simp only [start]
      split
      next => exact inside
      next => simp
  | some name =>
      simp only [Path.name, last, Option.getD_some, Path.child, Path.parent]
      constructor
      · rw [List.dropLast_append_getLast? name last]
      · rintro rfl
        exact noDirectory (walk_up wf last walked)

/-- The absolute form of the path of a file ends in the same name. -/
theorem name_absolute (wf : v.WellFormed) (working : cwd.IsWorkingDirectory)
    (inside : v.entry? cwd.place = some .directory) (found : v.find .followed cwd p = .ok l)
    (there : v.entry? l = some (.file id)) : (Path.absolute cwd p).name = p.name := by
  obtain ⟨parts, notUp⟩ := last_of_file wf inside found there
  have ending := Path.absolute_parts_reverse working p
  rw [parts, Path.child, Path.descend_concat _ _ notUp] at ending
  rw [Path.name, ← List.head?_reverse, parts, Path.child, ending]
  exact (Path.name_child p.parent p.name).symm

/-- An absolute path stands for the entry at its place. -/
theorem spot_at_place {s : Spot} (noLinks : v.hasNoLinks = true) (anchored : p.anchor ≠ .relative)
    (normal : p.IsNormal) (noUp : ".." ∉ p.parts) (spot : v.spot? cwd p = .ok (some s)) :
    s.location = p.place := by
  rcases spot?_ok spot with ⟨walked, -, parts⟩
  have above : ∀ name ∈ p.parts.dropLast, name ∈ p.parts := fun name member =>
    (List.dropLast_sublist p.parts).subset member
  have directory := walk_eq_descend noLinks (fun name member => normal name (above name member))
    walked
  have stays : ".." ∉ p.parts.dropLast := fun member => noUp (above ".." member)
  rw [start, if_neg anchored, Path.descend_of_no_up [] stays, List.append_nil] at directory
  rw [Path.place, parts, List.reverse_append, Spot.location, directory]
  rfl

/-- The names that lead to a directory lead there. -/
theorem walk_to_directory (wf : v.WellFormed) (links : Nat)
    (fits : ∀ part ∈ l, octetLength part ≤ nameLimit) (there : v.entry? l = some .directory) :
    v.walk .followed links [] l.reverse = .ok l := by
  induction l with
  | nil => simp [walk]
  | cons name dir ih =>
      have above := wf.directory_above there
      have reached := ih (fun part member => fits part (List.mem_cons_of_mem _ member)) above
      rcases walk_append (List.cons_ne_nil name []) reached with ⟨left, -, continued⟩
      rw [List.reverse_cons, continued]
      apply walk_name (wf.isName there) (fits name List.mem_cons_self) above
      simp [there]

/-- Looking for a name in a directory is refused as too long exactly if the name or the path is
over its limit. -/
theorem look_tooLong_iff {name : String} {dir : Location} (wf : v.WellFormed)
    (fits : ∀ part ∈ dir, octetLength part ≤ nameLimit) (directory : v.entry? dir = some .directory)
    (noLink : ∀ target, v.entry? (name :: dir) ≠ some (.link target)) (named : IsName name)
    (anchored : p.anchor ≠ .relative) (parts : p.parts = dir.reverse ++ [name])
    (clean : Path.hasNull p.text = false) :
    v.look cwd p = .error (.code .nameTooLong) ↔
      pathLimit ≤ octetLength p.text ∨ nameLimit < octetLength name := by
  have reached := walk_to_directory wf linkLimit fits directory
  rcases walk_append (List.cons_ne_nil name []) reached with ⟨left, -, continued⟩
  rw [← parts] at continued
  have started : start cwd p = [] := by rw [start, if_neg anchored]
  by_cases longPath : pathLimit ≤ octetLength p.text
  · simp [look, find, reach, clean, longPath]
  by_cases longName : nameLimit < octetLength name
  · rw [walk_tooLong named longName directory, ← started] at continued
    simp [look_of_walk_tooLong clean continued, longName]
  · rw [walk_name named (Nat.not_lt.mp longName) directory noLink] at continued
    cases there : v.entry? (name :: dir) <;>
      simp [look, find, reach, clean, longPath, longName, started, continued, there,
        Except.mapError]

/-! ## Moving a file -/

/-- Moving a file changes the view at the place it leaves and at the one it comes to. -/
theorem entry?_move_file (wf : v.WellFormed) (movable : v.Movable source target)
    (file : v.entry? source = some (.file id)) (absent : v.entry? target = none) :
    Volume.entry? (v.move source target) =
      Function.update (Function.update v.entry? source none) target (some (.file id)) := by
  have empty : ∀ k, source <:+ k → k ≠ source → v.entry? k = none := by
    intro k
    apply wf.entry?_below
    rw [file]
    simp
  funext k
  by_cases atTarget : k = target
  · subst atTarget
    rw [Function.update_self]
    exact (entry?_move_target wf movable []).trans file
  rw [Function.update_of_ne atTarget]
  by_cases atSource : k = source
  · subst atSource
    rw [Function.update_self]
    exact entry?_move_source wf movable []
  rw [Function.update_of_ne atSource]
  by_cases onto : target <:+ k
  · rw [movable.clear k onto atTarget]
    rcases onto with ⟨names, rfl⟩
    rw [entry?_move_target wf movable names]
    apply empty
    · exact List.suffix_append names source
    · intro same
      apply atTarget
      rw [List.append_left_eq_self.mp same]
      rfl
  by_cases moved : source <:+ k
  · rw [empty k moved atSource]
    rcases moved with ⟨names, rfl⟩
    exact entry?_move_source wf movable names
  exact entry?_move_other wf movable moved onto

theorem Plain.move (plain : v.Plain) (movable : v.Movable source target) :
    (v.move source target).Plain where
  wellFormed := move_wellFormed plain.wellFormed movable
  noLinks := by
    have ordinary := List.all_eq_true.mp plain.noLinks
    apply List.all_eq_true.mpr
    rintro ⟨k, e⟩ member
    rcases mem_move.mp member with ⟨m, there, -, -⟩
    exact ordinary (m, e) there
  unique := by
    have fewer : ((v.move source target).fileIds).Sublist v.fileIds := by
      simp only [fileIds, Volume.move, List.filterMap_map]
      exact List.filter_sublist.filterMap _
    exact plain.unique.sublist fewer

end Volume

end MediaNaming
