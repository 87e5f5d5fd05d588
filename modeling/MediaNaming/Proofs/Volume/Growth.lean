import MediaNaming.Proofs.Volume.Steady
/-!
# Trees that grow along a path

Opening a log file makes the directories above it that are missing, and then the file. All that
was in the tree before stays, with its octets, and whatever is new is a directory above the path
or the file that the path leads to.
-/

namespace MediaNaming

/-- The path of the first names of a path. -/
def Path.upTo (p : Path) (count : Nat) : Path :=
  { p with parts := p.parts.take count }

/-- The first names of a path and the one behind them. -/
theorem Path.upTo_succ {p : Path} {count : Nat} {name : String}
    (next : p.parts[count]? = some name) : p.upTo (count + 1) = (p.upTo count).child name := by
  simp [upTo, child, List.take_add_one, next]

theorem Path.upTo_all {p : Path} {count : Nat} (none : p.parts[count]? = none) :
    p.upTo (count + 1) = p.upTo count := by
  simp [upTo, List.take_add_one, none]

theorem Path.upTo_length (p : Path) : p.upTo p.parts.length = p := by
  simp [upTo]

theorem Path.upTo_length_sub_one (p : Path) : p.upTo (p.parts.length - 1) = p.parent := by
  simp [upTo, parent, List.dropLast_eq_take]

theorem Path.parent_upTo (p : Path) (count : Nat) :
    ∃ shorter, (p.upTo count).parent = p.upTo shorter := by
  refine ⟨(p.parts.take count).length - 1, ?_⟩
  simp only [upTo, parent, List.dropLast_eq_take, List.take_take]
  congr 2
  have bound := List.length_take_le count p.parts
  omega

namespace Volume

variable {v w u : Volume} {cwd p q : Path} {here l k : Location} {e : Entry} {links count id : Nat}
  {names : List String}

/-! ## Entries and octets -/

/-- Adding an entry to a free place changes what is seen there. -/
theorem entry?_add (absent : v.entry? l = none) (e : Entry) (k : Location) :
    entry? (v.add l e) k = if k = l then some e else v.entry? k := by
  have inside : l ≠ [] := by
    intro root
    rw [root, entry?_root] at absent
    cases absent
  by_cases root : k = []
  · rw [root, entry?_root, entry?_root, if_neg inside.symm]
  · rw [entry?_of_ne_root _ root, entry?_of_ne_root _ root, add, List.lookup_append]
    rw [entry?_of_ne_root _ inside] at absent
    by_cases same : k = l
    · rw [same, absent, if_pos rfl]
      simp
    · have other : (k == l) = false := beq_eq_false_iff_ne.mpr same
      rw [if_neg same, List.lookup_cons, other]
      exact Option.or_none

/-- What stands in the tree stays when an entry is added to a free place. -/
theorem entry?_add_of_present (absent : v.entry? l = none) (e : Entry) {f : Entry}
    (there : v.entry? k = some f) : entry? (v.add l e) k = some f := by
  have other : k ≠ l := by
    intro same
    rw [same, absent] at there
    cases there
  rw [entry?_add absent, if_neg other, there]

@[simp] theorem entry?_setContent (v : Volume) (id : Nat) (bs : List UInt8) :
    entry? (v.setContent id bs) = v.entry? := rfl

/-- Leaving out other keys of a list leaves what a key leads to. -/
theorem lookup_filter_key {α β : Type} [BEq α] [LawfulBEq α] {p : α → Bool} {key : α}
    (kept : p key = true) (pairs : List (α × β)) :
    (pairs.filter fun c => p c.1).lookup key = pairs.lookup key := by
  induction pairs with
  | nil => rfl
  | cons first rest ih =>
      obtain ⟨other, b⟩ := first
      by_cases same : key = other
      · rw [List.filter_cons_of_pos (by simpa [← same] using kept), same, List.lookup_cons_self,
          List.lookup_cons_self]
      · have different : (key == other) = false := beq_eq_false_iff_ne.mpr same
        by_cases survives : p other
        · rw [List.filter_cons_of_pos (by simpa using survives), List.lookup_cons,
            List.lookup_cons, different, ih]
        · rw [List.filter_cons_of_neg (by simpa using survives), List.lookup_cons, different, ih]

/-- Giving a file octets changes what is read from this file. -/
theorem content_setContent (v : Volume) (id other : Nat) (bs : List UInt8) :
    (v.setContent id bs).content other = if other = id then bs else v.content other := by
  by_cases same : other = id
  · rw [same, if_pos rfl]
    simp [content, setContent]
  · have different : (other == id) = false := beq_eq_false_iff_ne.mpr same
    have elsewhere := lookup_filter_key (p := fun key => decide (key ≠ id)) (decide_eq_true same)
      v.contents
    rw [if_neg same, content, content, setContent, List.lookup_cons, different, elsewhere]

/-- A file with octets still has some when a file is given others. -/
theorem recorded_setContent {other : Nat} (recorded : other ∈ v.contents.map Prod.fst) (id : Nat)
    (bs : List UInt8) : other ∈ (v.setContent id bs).contents.map Prod.fst := by
  by_cases same : other = id
  · rw [same]
    exact List.mem_cons_self
  · obtain ⟨c, member, key⟩ := List.mem_map.mp recorded
    have survives : c ∈ v.contents.filter (·.1 ≠ id) := by
      apply List.mem_filter.mpr
      refine ⟨member, decide_eq_true ?_⟩
      rw [key]
      exact same
    exact List.mem_map.mpr ⟨c, List.mem_cons_of_mem _ survives, key⟩

/-- The number of a new file is not that of a file with octets. -/
theorem lt_freshId (recorded : id ∈ v.contents.map Prod.fst) : id < v.freshId := by
  have grows : ∀ (start : Nat) (contents : List (Nat × List UInt8)),
      start ≤ contents.foldl (fun n c => max n (c.1 + 1)) start ∧
        ∀ c ∈ contents, c.1 < contents.foldl (fun n c => max n (c.1 + 1)) start := by
    intro start contents
    induction contents generalizing start with
    | nil => simp
    | cons first rest ih =>
        obtain ⟨above, later⟩ := ih (max start (first.1 + 1))
        refine ⟨Nat.le_trans (Nat.le_max_left _ _) above, ?_⟩
        intro c member
        rcases List.mem_cons.mp member with here | further
        · rw [here]
          exact Nat.lt_of_lt_of_le (Nat.lt_succ_self _)
            (Nat.le_trans (Nat.le_max_right _ _) above)
        · exact later c further
  obtain ⟨c, member, same⟩ := List.mem_map.mp recorded
  rw [← same]
  exact (grows 0 v.contents).2 c member

/-- Every file in the tree has octets of its own, even if there are none of them. -/
def Recorded (v : Volume) : Prop :=
  ∀ id ∈ v.fileIds, id ∈ v.contents.map Prod.fst

instance (v : Volume) : Decidable v.Recorded :=
  inferInstanceAs (Decidable (∀ id ∈ v.fileIds, id ∈ v.contents.map Prod.fst))

theorem Recorded.of_entry (recorded : v.Recorded)
    (there : v.entry? l = some (.file id)) : id ∈ v.contents.map Prod.fst := by
  have inside : l ≠ [] := by
    intro root
    rw [root, entry?_root] at there
    cases there
  apply recorded
  exact List.mem_filterMap.mpr ⟨(l, .file id), mem_entries_of_present inside there, rfl⟩

/-! ## Growth -/

/-- What opening a file at a path may make: the file, and directories above it. -/
def OnTheWay (v : Volume) (cwd p : Path) (l : Location) : Entry → Prop
  | .directory => ∃ count, v.find .followed cwd (p.upTo count) = .ok l
  | .file _ => v.find .followed cwd p = .ok l
  | .link _ => False

theorem OnTheWay.keeps (onTheWay : v.OnTheWay cwd p l e) (kept : Keeps v w)
    (after : w.entry? l = some e) : w.OnTheWay cwd p l e := by
  cases e with
  | directory =>
      obtain ⟨count, found⟩ := onTheWay
      exact ⟨count, find_keeps kept found after (by simp)⟩
  | file id => exact find_keeps kept onTheWay after (by simp)
  | link target => exact onTheWay.elim

/-- A tree with all that another one has, and with further entries on the way of a path. -/
structure Grown (cwd p : Path) (v w : Volume) : Prop where
  kept : ∀ l e, v.entry? l = some e → w.entry? l = some e
  added : ∀ l e, w.entry? l = some e → v.entry? l = some e ∨ w.OnTheWay cwd p l e
  octets : ∀ id ∈ v.contents.map Prod.fst,
    id ∈ w.contents.map Prod.fst ∧ w.content id = v.content id

namespace Grown

theorem refl (cwd p : Path) (v : Volume) : Grown cwd p v v where
  kept := fun _ _ there => there
  added := fun _ _ there => Or.inl there
  octets := fun _ recorded => ⟨recorded, rfl⟩

theorem keeps (grown : Grown cwd p v w) : Keeps v w :=
  fun l e there _ => grown.kept l e there

theorem trans (first : Grown cwd p v w) (second : Grown cwd p w u) : Grown cwd p v u where
  kept := fun l e there => second.kept l e (first.kept l e there)
  added := by
    intro l e there
    rcases second.added l e there with before | new
    · rcases first.added l e before with old | onTheWay
      · exact Or.inl old
      · exact Or.inr (onTheWay.keeps second.keeps there)
    · exact Or.inr new
  octets := by
    intro id recorded
    obtain ⟨still, same⟩ := first.octets id recorded
    obtain ⟨stillLater, sameLater⟩ := second.octets id still
    exact ⟨stillLater, sameLater.trans same⟩

/-- One entry more, where a path on the way leads. -/
theorem add (absent : v.entry? l = none) (noLink : ∀ target, e ≠ .link target)
    (clean : Path.hasNull q.text = false) (short : octetLength q.text < pathLimit)
    (walked : v.walk .followed linkLimit (start cwd q) q.parts = .ok l)
    (onTheWay : ∀ u : Volume, u.find .followed cwd q = .ok l → u.OnTheWay cwd p l e) :
    Grown cwd p v (v.add l e) := by
  have kept : ∀ k f, v.entry? k = some f → entry? (v.add l e) k = some f :=
    fun k f there => entry?_add_of_present absent e there
  constructor
  · exact kept
  · intro k f there
    rw [entry?_add absent] at there
    split at there
    next same =>
      cases there
      have after : entry? (v.add l e) l = some e := by
        rw [entry?_add absent, if_pos rfl]
      have stillWalked := walk_keeps (fun k f there _ => kept k f there) walked after noLink
      rw [same]
      exact Or.inr (onTheWay _ (find_of_walk clean short stillWalked after))
    next => exact Or.inl there
  · intro id recorded
    exact ⟨recorded, rfl⟩

/-- Octets for a file that is new, or those that the file has. -/
theorem setContent {bs : List UInt8}
    (unchanged : id ∈ v.contents.map Prod.fst → bs = v.content id) :
    Grown cwd p v (v.setContent id bs) where
  kept := fun _ _ there => there
  added := fun _ _ there => Or.inl there
  octets := by
    intro other recorded
    refine ⟨recorded_setContent recorded id bs, ?_⟩
    rw [content_setContent]
    by_cases same : other = id
    · rw [same] at recorded ⊢
      rw [if_pos rfl, unchanged recorded]
    · rw [if_neg same]

end Grown

/-! ## Making directories -/

theorem settle_volume (v : Volume) (cwd p : Path) (r : Refusal) :
    (v.settle cwd p r).volume = v := by
  cases r with
  | nullInPath => rfl
  | code c =>
      simp only [settle]
      split <;> rfl

theorem makeDirectory_ok (made : v.makeDirectory cwd q = .ok w) :
    ∃ s, v.spot? cwd q = .ok (some s) ∧ v.entryAt? s = .ok none ∧
      Path.hasNull q.text = false ∧ octetLength q.text < pathLimit ∧
      w = v.add s.location .directory := by
  simp only [makeDirectory] at made
  split at made
  next => cases made
  next clean =>
    split at made
    next => cases made
    next short =>
      split at made
      next => cases made
      next => cases made
      next s spot =>
        split at made
        next => cases made
        next => cases made
        next asked =>
          cases made
          exact ⟨s, spot, asked, eq_false_of_ne_true clean, Nat.not_le.mp short, rfl⟩

theorem file_of_makeDirectory (made : v.makeDirectory cwd q = .ok w)
    (there : w.entry? l = some (.file id)) : v.entry? l = some (.file id) := by
  obtain ⟨s, -, asked, -, -, rfl⟩ := makeDirectory_ok made
  rw [entry?_add (entryAt?_ok asked).2] at there
  split at there
  next => cases there
  next => exact there

/-- Making directories makes no files. -/
theorem file_of_makeParents {levels : Nat}
    (there : (v.makeParents cwd levels q).volume.entry? l = some (.file id)) :
    v.entry? l = some (.file id) := by
  induction levels generalizing q with
  | zero => exact there
  | succ levels ih =>
      rw [makeParents] at there
      split at there
      next made => exact file_of_makeDirectory made there
      next =>
        split at there
        next => exact there
        next =>
          dsimp only at there
          split at there
          next => exact ih there
          next =>
            split at there
            next made => exact ih (file_of_makeDirectory made there)
            next => exact ih there
            next =>
              rw [settle_volume] at there
              exact ih there
      next =>
        rw [settle_volume] at there
        exact there

variable (normal : p.IsNormal) (noUp : ".." ∉ p.parts)

include normal noUp

theorem grown_makeDirectory (made : v.makeDirectory cwd (p.upTo count) = .ok w) :
    Grown cwd p v w := by
  obtain ⟨s, spot, asked, clean, short, rfl⟩ := makeDirectory_ok made
  obtain ⟨fits, absent⟩ := entryAt?_ok asked
  obtain ⟨walked, directory, parts⟩ := spot?_ok spot
  have member : s.name ∈ p.parts := by
    apply List.mem_of_mem_take
    show s.name ∈ (p.upTo count).parts
    rw [parts]
    simp
  have notUp : s.name ≠ ".." := by
    intro up
    rw [up] at member
    exact noUp member
  obtain ⟨left, -, continued⟩ := walk_append (List.cons_ne_nil s.name []) walked
  rw [← parts, walk_part (normal _ member).1 (normal _ member).2 notUp fits directory
    (by simp [show v.entry? (s.name :: s.dir) = none from absent])] at continued
  exact Grown.add absent (by simp) clean short continued fun _ found => ⟨count, found⟩

/-- Making the directories above a file only adds directories on the way to it. -/
theorem grown_makeParents (v : Volume) (cwd : Path) (levels count : Nat) :
    Grown cwd p v (v.makeParents cwd levels (p.upTo count)).volume := by
  induction levels generalizing count with
  | zero => exact Grown.refl cwd p v
  | succ levels ih =>
      rw [makeParents]
      split
      next made => exact grown_makeDirectory normal noUp made
      next =>
        split
        next => exact Grown.refl cwd p v
        next =>
          obtain ⟨shorter, above⟩ := p.parent_upTo count
          have higher := ih shorter
          rw [← above] at higher
          dsimp only
          split
          next => exact higher
          next =>
            split
            next made => exact higher.trans (grown_makeDirectory normal noUp made)
            next => exact higher
            next =>
              rw [settle_volume]
              exact higher
      next =>
        rw [settle_volume]
        exact Grown.refl cwd p v

omit normal noUp

/-! ## Opening a file -/

/-- A file that is to be made lies where its path leads. -/
theorem walk_made (reached : v.walk .made links here names = .ok l) :
    v.walk .followed links here names = .ok l := by
  fun_induction walk v .made links here names with
  | case1 links here => rw [walk, reached]
  | case2 | case3 | case6 | case7 | case9 | case11 => cases reached
  | case4 links here name rest there directory skipped ih =>
      rw [walk]
      simp only [there, directory, skipped, ↓reduceIte]
      exact ih reached
  | case5 links here rest there directory named ih =>
      rw [walk]
      simp only [there, directory, named, ↓reduceIte]
      exact ih reached
  | case8 links here name rest there directory named notUp notMade fits absent last =>
      rw [walk]
      simp [there, directory, named, notUp, fits, absent, last, reached]
  | case10 links here name rest there directory named notUp notMade fits target link last =>
      simp at last
  | case12 here name rest there directory named notUp notMade fits target link notLast k ih =>
      rw [walk]
      simp only [there, directory, named, notUp, fits, link, ↓reduceIte]
      simpa using ih reached
  | case13 links here name rest there directory named notUp notMade fits f notLink present ih =>
      rw [walk]
      simp only [there, directory, named, notUp, fits, present, ↓reduceIte]
      simpa using ih reached

/-- Opening a file leaves its octets. -/
theorem grown_append (opened : v.append? cwd p "" = .ok w) : Grown cwd p v w := by
  have nothing : Text.Utf8.octets "" = [] := rfl
  simp only [append?, update?, nothing, List.append_nil] at opened
  split at opened
  next => cases opened
  next l reached =>
    split at opened
    next absent =>
      cases opened
      obtain ⟨clean, short, walked⟩ := reach_ok reached
      have placed : Grown cwd p v (v.add l (.file v.freshId)) :=
        Grown.add absent (by simp) clean short (walk_made walked) fun _ found => found
      apply placed.trans
      exact Grown.setContent fun recorded => absurd (lt_freshId recorded) (Nat.lt_irrefl _)
    next there =>
      cases opened
      exact Grown.setContent fun _ => rfl
    next => cases opened

end Volume

end MediaNaming
