import MediaNaming.Proofs.Volume.Growth
/-!
# Where going up is going back

The operating system goes up from the directory that it has reached, and the absolute form of a
path drops the name in front of a `..`. `Leads` follows names one by one and counts the links on
the way, so that the two can be compared: they agree all along a path exactly if each name that a
`..` drops leads to an entry of the directory in which it stands. Only a symbolic link can lead
elsewhere.
-/

namespace MediaNaming.Volume

open MediaNaming.Path (descend)

variable {v : Volume} {cwd p : Path} {here dir l m : Location} {names rest : List String}
  {name : String} {links used more : Nat}

/-- Following names from a location leads to an entry, through so many links. -/
inductive Leads (v : Volume) : Location → List String → Nat → Location → Prop where
  | stop {here : Location} {e : Entry} (there : v.entry? here = some e) : Leads v here [] 0 here
  | stay {here l : Location} {name : String} {rest : List String} {used : Nat}
      (directory : v.entry? here = some .directory) (skipped : name = "" ∨ name = ".")
      (on : Leads v here rest used l) : Leads v here (name :: rest) used l
  | up {here l : Location} {rest : List String} {used : Nat}
      (directory : v.entry? here = some .directory) (on : Leads v here.tail rest used l) :
      Leads v here (".." :: rest) used l
  | down {here l : Location} {name : String} {rest : List String} {e : Entry} {used : Nat}
      (directory : v.entry? here = some .directory)
      (named : name ≠ "" ∧ name ≠ "." ∧ name ≠ "..") (fits : octetLength name ≤ nameLimit)
      (there : v.entry? (name :: here) = some e) (noLink : ∀ target, e ≠ .link target)
      (on : Leads v (name :: here) rest used l) : Leads v here (name :: rest) used l
  | through {here l : Location} {name target : String} {rest : List String} {used : Nat}
      (directory : v.entry? here = some .directory)
      (named : name ≠ "" ∧ name ≠ "." ∧ name ≠ "..") (fits : octetLength name ≤ nameLimit)
      (link : v.entry? (name :: here) = some (.link target))
      (on : Leads v (targetStart here target) (targetNames target ++ rest) used l) :
      Leads v here (name :: rest) (used + 1) l

/-- A walk that ends at an entry follows no more links than it may. -/
theorem leads_of_walk (reached : v.walk .followed links here names = .ok l) {e : Entry}
    (there : v.entry? l = some e) : ∃ used, used ≤ links ∧ v.Leads here names used l := by
  fun_induction walk v .followed links here names with
  | case1 links here =>
      cases reached
      exact ⟨0, Nat.zero_le links, .stop there⟩
  | case2 | case3 | case6 | case7 | case9 | case11 => cases reached
  | case4 links here name rest present directory skipped ih =>
      obtain ⟨used, bound, on⟩ := ih reached
      exact ⟨used, bound, .stay (Decidable.not_not.mp directory) (by simpa using skipped) on⟩
  | case5 links here rest present directory named ih =>
      obtain ⟨used, bound, on⟩ := ih reached
      exact ⟨used, bound, .up (Decidable.not_not.mp directory) on⟩
  | case8 links here name rest present directory named notUp notMade fits absent last =>
      cases reached
      rw [absent] at there
      cases there
  | case10 links here name rest present directory named notUp notMade fits target link last =>
      simp at last
  | case12 here name rest present directory named notUp notMade fits target link notLast k ih =>
      obtain ⟨used, bound, on⟩ := ih reached
      simp only [Bool.or_eq_true, decide_eq_true_eq, not_or] at named
      exact ⟨used + 1, Nat.succ_le_succ bound, .through (Decidable.not_not.mp directory)
        ⟨named.1, named.2, notUp⟩ (Nat.not_lt.mp fits) link on⟩
  | case13 links here name rest present directory named notUp notMade fits f notLink entry ih =>
      obtain ⟨used, bound, on⟩ := ih reached
      simp only [Bool.or_eq_true, decide_eq_true_eq, not_or] at named
      exact ⟨used, bound, .down (Decidable.not_not.mp directory) ⟨named.1, named.2, notUp⟩
        (Nat.not_lt.mp fits) entry notLink on⟩

namespace Leads

theorem walk (leads : v.Leads here names used l) (bound : used ≤ links) :
    v.walk .followed links here names = .ok l := by
  induction leads generalizing links with
  | stop there => rw [Volume.walk]
  | stay directory skipped on ih =>
      rw [Volume.walk]
      simp [directory, skipped, ih bound]
  | up directory on ih =>
      rw [Volume.walk]
      simp [directory, ih bound]
  | @down here l name rest e used directory named fits there noLink on ih =>
      rw [Volume.walk]
      simp only [directory, named, Nat.not_lt.mpr fits, there]
      cases e with
      | link target => exact absurd rfl (noLink target)
      | directory | file id => simpa using ih bound
  | through directory named fits link on ih =>
      obtain ⟨fewer, rfl⟩ := Nat.exists_eq_add_of_lt bound
      rw [Volume.walk]
      simp [directory, named, Nat.not_lt.mpr fits, link, ih (Nat.le_add_right _ fewer)]

theorem start_present (leads : v.Leads here names used l) : ∃ e, v.entry? here = some e := by
  cases leads with
  | stop there => exact ⟨_, there⟩
  | stay directory | up directory | down directory | through directory => exact ⟨_, directory⟩

theorem up_eq (leads : v.Leads here [".."] used l) : l = here.tail := by
  cases leads with
  | stay directory skipped on => simp at skipped
  | down directory named | through directory named => simp at named
  | up directory on =>
      cases on with
      | stop there => rfl

theorem append (leads : v.Leads here names used m) (on : v.Leads m rest more l) :
    v.Leads here (names ++ rest) (used + more) l := by
  induction leads with
  | stop there =>
      rw [Nat.zero_add]
      exact on
  | stay directory skipped first ih => exact .stay directory skipped (ih on)
  | up directory first ih => exact .up directory (ih on)
  | down directory named fits there noLink first ih =>
      exact .down directory named fits there noLink (ih on)
  | through directory named fits link first ih =>
      rw [List.cons_append, Nat.add_right_comm]
      apply Leads.through directory named fits link
      rw [← List.append_assoc]
      exact ih on

/-- Before the first name nothing has been followed. -/
theorem split_front (leads : v.Leads here rest used l) :
    ∃ m first second, v.Leads here [] first m ∧ v.Leads m rest second l ∧
      used = first + second := by
  obtain ⟨e, there⟩ := leads.start_present
  exact ⟨here, 0, used, .stop there, leads, (Nat.zero_add used).symm⟩

/-- Following names can be interrupted behind any of them. -/
theorem split (leads : v.Leads here (names ++ rest) used l) :
    ∃ m first second, v.Leads here names first m ∧ v.Leads m rest second l ∧
      used = first + second := by
  generalize whole : names ++ rest = all at leads
  induction leads generalizing names with
  | stop there =>
      obtain ⟨rfl, rfl⟩ := List.append_eq_nil_iff.mp whole
      exact split_front (.stop there)
  | stay directory skipped on ih =>
      cases names with
      | nil =>
          rw [show rest = _ from whole]
          exact split_front (.stay directory skipped on)
      | cons first names =>
          obtain ⟨rfl, later⟩ := List.cons.inj whole
          obtain ⟨m, front, back, toMiddle, fromMiddle, total⟩ := ih later
          exact ⟨m, front, back, .stay directory skipped toMiddle, fromMiddle, total⟩
  | up directory on ih =>
      cases names with
      | nil =>
          rw [show rest = _ from whole]
          exact split_front (.up directory on)
      | cons first names =>
          obtain ⟨rfl, later⟩ := List.cons.inj whole
          obtain ⟨m, front, back, toMiddle, fromMiddle, total⟩ := ih later
          exact ⟨m, front, back, .up directory toMiddle, fromMiddle, total⟩
  | down directory named fits there noLink on ih =>
      cases names with
      | nil =>
          rw [show rest = _ from whole]
          exact split_front (.down directory named fits there noLink on)
      | cons first names =>
          obtain ⟨rfl, later⟩ := List.cons.inj whole
          obtain ⟨m, front, back, toMiddle, fromMiddle, total⟩ := ih later
          exact ⟨m, front, back, .down directory named fits there noLink toMiddle, fromMiddle,
            total⟩
  | @through here l name target others used directory named fits link on ih =>
      cases names with
      | nil =>
          rw [show rest = _ from whole]
          exact split_front (.through directory named fits link on)
      | cons first names =>
          rw [List.cons_append] at whole
          obtain ⟨rfl, later⟩ := List.cons.inj whole
          -- the names of the target come before those that are left
          have longer : (targetNames target ++ names) ++ rest = targetNames target ++ others := by
            rw [List.append_assoc, later]
          obtain ⟨m, front, back, toMiddle, fromMiddle, total⟩ := ih longer
          refine ⟨m, front + 1, back, .through directory named fits link toMiddle, fromMiddle, ?_⟩
          omega

end Leads

/-! ## Paths and their absolute forms -/

/-- The location that a path leads to, however long its text is. -/
def follow (v : Volume) (cwd p : Path) : Except SystemCode Location :=
  v.walk .followed linkLimit (start cwd p) p.parts

/-- Every `..` of a path goes back: the name that it drops leads to an entry of the directory in
which the name stands. -/
def GoesBack (v : Volume) (cwd p : Path) : Prop :=
  ∀ count, p.parts[count]? = some ".." → ∀ l dir,
    v.follow cwd (Path.absolute cwd (p.upTo count)) = .ok l →
      v.follow cwd (Path.absolute cwd (p.upTo count)).parent = .ok dir → l.tail = dir

theorem leads_of_follow (followed : v.follow cwd p = .ok l) {e : Entry}
    (there : v.entry? l = some e) :
    ∃ used, used ≤ linkLimit ∧ v.Leads (start cwd p) p.parts used l :=
  leads_of_walk followed there

theorem Leads.follow (leads : v.Leads (start cwd p) p.parts used l) (bound : used ≤ linkLimit) :
    v.follow cwd p = .ok l :=
  leads.walk bound

/-- The directory that a path starts from is where its own names lead. -/
theorem leads_to_start (wf : v.WellFormed) (inside : v.entry? cwd.place = some .directory)
    (fits : ∀ part ∈ cwd.parts, octetLength part ≤ nameLimit) (p : Path) :
    v.Leads [] (start cwd p).reverse 0 (start cwd p) := by
  have directory : v.entry? (start cwd p) = some .directory := by
    rw [start]
    split
    next => exact inside
    next => exact entry?_root v
  have short : ∀ part ∈ start cwd p, octetLength part ≤ nameLimit := by
    intro part member
    rw [start] at member
    split at member
    next => exact fits part (List.mem_reverse.mp member)
    next => cases member
  obtain ⟨used, bound, leads⟩ := leads_of_walk (walk_to_directory wf 0 short directory) directory
  rwa [Nat.le_zero.mp bound] at leads

section Comparison

variable (working : cwd.IsWorkingDirectory)

include working

theorem start_absolute (p : Path) : start cwd (Path.absolute cwd p) = [] :=
  if_neg (Path.absolute_anchor working p)

theorem start_absolute_parent (p : Path) : start cwd (Path.absolute cwd p).parent = [] :=
  if_neg (Path.absolute_anchor working p)

/-- Dropping the last name of an absolute path leads where going up leads. -/
theorem up_absolute {count fewer : Nat} (back : v.GoesBack cwd p)
    (next : p.parts[count]? = some "..") (bound : fewer ≤ linkLimit)
    (absolute : v.Leads [] (Path.absolute cwd (p.upTo count)).parts fewer m) :
    ∃ less, less ≤ fewer ∧
      v.Leads [] (Path.absolute cwd (p.upTo count)).parent.parts less m.tail := by
  rcases List.eq_nil_or_concat (Path.absolute cwd (p.upTo count)).parts with none | some
  · rw [none] at absolute
    cases absolute with
    | stop there =>
        rw [Path.parent, none]
        exact ⟨0, Nat.le_refl 0, .stop there⟩
  · obtain ⟨above, name, parts⟩ := some
    have dropped : (Path.absolute cwd (p.upTo count)).parent.parts = above := by
      rw [Path.parent, parts, List.concat_eq_append, List.dropLast_concat]
    have split := absolute
    rw [parts, List.concat_eq_append] at split
    obtain ⟨dir, front, last, toDir, fromDir, total⟩ := split.split
    have less : front ≤ fewer := by omega
    rw [dropped]
    -- both are followed to an entry, so that the `..` says where the second one leads
    have whole : v.follow cwd (Path.absolute cwd (p.upTo count)) = .ok m :=
      Leads.follow (by rwa [start_absolute working]) bound
    have parent : v.follow cwd (Path.absolute cwd (p.upTo count)).parent = .ok dir :=
      Leads.follow (by rwa [start_absolute_parent working, dropped]) (Nat.le_trans less bound)
    rw [back count next m dir whole parent]
    exact ⟨front, less, toDir⟩

/-- The absolute form of the first names of a path leads where the names lead, through no more
links, if every `..` among them goes back. -/
theorem Leads.absolute (base : v.Leads [] (start cwd p).reverse 0 (start cwd p))
    (back : v.GoesBack cwd p) {count : Nat} (bound : used ≤ linkLimit)
    (leads : v.Leads (start cwd p) (p.upTo count).parts used l) :
    ∃ fewer, fewer ≤ used ∧ v.Leads [] (Path.absolute cwd (p.upTo count)).parts fewer l := by
  induction count generalizing used l with
  | zero =>
      have parts : (Path.absolute cwd (p.upTo 0)).parts = (start cwd p).reverse := by
        have reversed := Path.absolute_parts_reverse working (p.upTo 0)
        rw [← List.reverse_reverse (Path.absolute cwd (p.upTo 0)).parts, reversed]
        rfl
      have atStart : v.Leads (start cwd p) [] used l := leads
      cases atStart with
      | stop there =>
          rw [parts]
          exact ⟨0, Nat.le_refl 0, base⟩
  | succ count ih =>
      cases next : p.parts[count]? with
      | none =>
          rw [Path.upTo_all next] at leads ⊢
          exact ih bound leads
      | some name =>
          rw [Path.upTo_succ next] at leads ⊢
          obtain ⟨m, first, second, toMiddle, fromMiddle, total⟩ := Leads.split leads
          have shorter : first ≤ used := by omega
          obtain ⟨fewer, fewerFirst, absolute⟩ := ih (Nat.le_trans shorter bound) toMiddle
          by_cases up : name = ".."
          · subst up
            rw [Path.absolute_up]
            rw [fromMiddle.up_eq]
            have withinLimit : fewer ≤ linkLimit := by omega
            obtain ⟨less, lessFewer, parent⟩ :=
              up_absolute working back next withinLimit absolute
            exact ⟨less, by omega, parent⟩
          · rw [Path.absolute_child up]
            refine ⟨fewer + second, by omega, ?_⟩
            exact absolute.append fromMiddle

/-- A path that leads to an entry does so as long as its absolute form, name by name, exactly if
every `..` in it goes back. -/
theorem follow_absolute_iff (wf : v.WellFormed) (inside : v.entry? cwd.place = some .directory)
    (fits : ∀ part ∈ cwd.parts, octetLength part ≤ nameLimit) {e : Entry}
    (followed : v.follow cwd p = .ok l) (there : v.entry? l = some e) :
    (∀ count, v.follow cwd (Path.absolute cwd (p.upTo count)) = v.follow cwd (p.upTo count)) ↔
      v.GoesBack cwd p := by
  obtain ⟨used, bound, leads⟩ := leads_of_follow followed there
  -- the first names of the path lead somewhere, too
  have prefixes : ∀ count, ∃ m first, first ≤ linkLimit ∧
      v.Leads (start cwd p) (p.upTo count).parts first m := by
    intro count
    rw [← List.take_append_drop count p.parts] at leads
    obtain ⟨m, first, second, toMiddle, -, total⟩ := leads.split
    exact ⟨m, first, by omega, toMiddle⟩
  constructor
  · intro same count next k dir whole parent
    obtain ⟨m, first, small, toMiddle⟩ := prefixes (count + 1)
    have through := toMiddle
    rw [Path.upTo_succ next] at through
    obtain ⟨middle, front, back, toName, fromName, total⟩ := Leads.split through
    have atMiddle : v.follow cwd (p.upTo count) = .ok middle := toName.walk (by omega)
    rw [same count, atMiddle] at whole
    rw [← Path.absolute_up, ← Path.upTo_succ next, same (count + 1)] at parent
    have reached : v.follow cwd (p.upTo (count + 1)) = .ok m := toMiddle.walk small
    rw [reached] at parent
    cases whole
    cases parent
    exact fromName.up_eq.symm
  · intro back count
    obtain ⟨m, first, small, toMiddle⟩ := prefixes count
    obtain ⟨fewer, fewerFirst, absolute⟩ :=
      Leads.absolute working (leads_to_start wf inside fits p) back small toMiddle
    have reached : v.follow cwd (p.upTo count) = .ok m := toMiddle.walk small
    rw [reached]
    apply Leads.follow _ (Nat.le_trans fewerFirst small)
    rwa [start_absolute working]

end Comparison

end MediaNaming.Volume
