import MediaNaming.Proofs.Volume.Tree
import MediaNaming.Volume.Query
/-!
# Walking through a file tree

What following names finds. A walk can be cut in two behind any name, and a name of its own leads
to the entry of that name. In a tree without symbolic links a walk can only end where the names
alone say: at the location that remains when every `..` has undone the name before it.
-/

namespace MediaNaming.Volume

open MediaNaming.Path (IsName descend)

variable {v : Volume} {links : Nat} {here dir l : Location} {names rest : List String}

theorem walk_of_absent (absent : v.entry? here = none) (more : names ≠ []) :
    v.walk .followed links here names = .error .missing := by
  cases names with
  | nil => exact absurd rfl more
  | cons name names => simp [walk, absent]

/-- A walk goes on from where its first names have led, with the links that are left. -/
theorem walk_append (more : rest ≠ []) (reached : v.walk .followed links here names = .ok dir) :
    ∃ left, left ≤ links ∧
      v.walk .followed links here (names ++ rest) = v.walk .followed left dir rest := by
  fun_induction walk v .followed links here names with
  | case1 links here =>
      cases reached
      exact ⟨links, Nat.le_refl links, rfl⟩
  | case2 | case3 | case6 | case7 | case9 | case11 => cases reached
  | case4 links here name others there directory skipped ih =>
      rcases ih reached with ⟨left, bound, same⟩
      refine ⟨left, bound, ?_⟩
      rw [List.cons_append, walk]
      simp only [there, directory, skipped, ↓reduceIte]
      exact same
  | case5 links here others there directory named ih =>
      rcases ih reached with ⟨left, bound, same⟩
      refine ⟨left, bound, ?_⟩
      rw [List.cons_append, walk]
      simp only [there, directory, named, ↓reduceIte]
      exact same
  | case8 links here name others there directory named notUp notMade fits absent last =>
      cases reached
      refine ⟨links, Nat.le_refl links, ?_⟩
      rw [walk_of_absent absent more, List.isEmpty_iff.mp last, List.cons_append, List.nil_append,
        walk]
      simp [there, directory, named, notUp, fits, absent, more]
  | case10 links here name others there directory named notUp notMade fits target link last =>
      simp at last
  | case12 here name others there directory named notUp notMade fits target link notLast k ih =>
      rcases ih reached with ⟨left, bound, same⟩
      refine ⟨left, Nat.le_succ_of_le bound, ?_⟩
      rw [List.cons_append, walk]
      simp only [there, directory, named, notUp, fits, link, ↓reduceIte]
      rw [← List.append_assoc]
      simpa using same
  | case13 links here name others there directory named notUp notMade fits e notLink present ih =>
      rcases ih reached with ⟨left, bound, same⟩
      refine ⟨left, bound, ?_⟩
      rw [List.cons_append, walk]
      simp only [there, directory, named, notUp, fits, present, ↓reduceIte]
      simpa using same

/-- A part of a path in a directory leads to the place of that name, unless a link is there. -/
theorem walk_part {name : String} (notEmpty : name ≠ "") (notDot : name ≠ ".")
    (notUp : name ≠ "..") (fits : octetLength name ≤ nameLimit)
    (directory : v.entry? dir = some .directory)
    (noLink : ∀ target, v.entry? (name :: dir) ≠ some (.link target)) :
    v.walk .followed links dir [name] = .ok (name :: dir) := by
  rw [walk]
  cases there : v.entry? (name :: dir) with
  | none => simp [directory, notEmpty, notDot, notUp, Nat.not_lt.mpr fits]
  | some e =>
      cases e with
      | link target => exact absurd there (noLink target)
      | directory | file id =>
          simp [directory, notEmpty, notDot, notUp, Nat.not_lt.mpr fits, walk]

theorem walk_name {name : String} (named : IsName name) (fits : octetLength name ≤ nameLimit)
    (directory : v.entry? dir = some .directory)
    (noLink : ∀ target, v.entry? (name :: dir) ≠ some (.link target)) :
    v.walk .followed links dir [name] = .ok (name :: dir) :=
  walk_part named.1 named.2.1 named.2.2.1 fits directory noLink

/-- What is no link is gone into. -/
theorem walk_down {name : String} {e : Entry} (named : IsName name)
    (fits : octetLength name ≤ nameLimit) (directory : v.entry? dir = some .directory)
    (there : v.entry? (name :: dir) = some e) (noLink : ∀ target, e ≠ .link target) :
    v.walk .followed links dir (name :: rest) = v.walk .followed links (name :: dir) rest := by
  rcases named with ⟨notEmpty, notDot, notUp, -⟩
  rw [walk]
  cases e with
  | link target => exact absurd rfl (noLink target)
  | directory | file id =>
      simp [directory, notEmpty, notDot, notUp, Nat.not_lt.mpr fits, there]

/-- A link leads where its target leads. -/
theorem walk_link {name target : String} (named : IsName name)
    (fits : octetLength name ≤ nameLimit) (directory : v.entry? dir = some .directory)
    (link : v.entry? (name :: dir) = some (.link target)) :
    v.walk .followed (links + 1) dir (name :: rest) =
      v.walk .followed links (targetStart dir target) (targetNames target ++ rest) := by
  rcases named with ⟨notEmpty, notDot, notUp, -⟩
  rw [walk]
  simp [directory, notEmpty, notDot, notUp, Nat.not_lt.mpr fits, link]

/-- A link whose target is a name leads to this name in its own directory. -/
theorem walk_link_name {name target : String} (named : IsName name)
    (fits : octetLength name ≤ nameLimit) (directory : v.entry? dir = some .directory)
    (link : v.entry? (name :: dir) = some (.link target)) (targetNamed : IsName target) :
    v.walk .followed (links + 1) dir (name :: rest) =
      v.walk .followed links dir (target :: rest) := by
  obtain ⟨filled, -, -, inside, -⟩ := targetNamed
  have names : targetNames target = [target] := by
    have last : target.toList.getLast? ≠ some '/' := fun slash =>
      inside (List.mem_of_getLast? slash)
    simp [targetNames, Text.pieces, Text.splitOn_of_not_mem inside, filled, last]
  have start : targetStart dir target = dir := by
    have first : target.toList.head? ≠ some '/' := fun slash =>
      inside (List.mem_of_mem_head? slash)
    rw [targetStart, if_neg first]
  rw [walk_link named fits directory link, names, start]
  rfl

/-- A name over the limit is refused before it is looked up. -/
theorem walk_tooLong {name : String} (named : IsName name)
    (long : nameLimit < octetLength name) (directory : v.entry? dir = some .directory) :
    v.walk .followed links dir (name :: rest) = .error .nameTooLong := by
  rcases named with ⟨notEmpty, notDot, notUp, -⟩
  rw [walk]
  simp [directory, notEmpty, notDot, notUp, long]

theorem find_of_walk {cwd p : Path} {e : Entry} (clean : Path.hasNull p.text = false)
    (short : octetLength p.text < pathLimit)
    (walked : v.walk .followed linkLimit (start cwd p) p.parts = .ok l)
    (there : v.entry? l = some e) : v.find .followed cwd p = .ok l := by
  have reached : v.reach .followed cwd p = .ok l := by
    simp [reach, clean, Nat.not_le.mpr short, walked, Except.mapError]
  simp [find, reached, there]

theorem find_of_walk_absent {cwd p : Path} (clean : Path.hasNull p.text = false)
    (short : octetLength p.text < pathLimit)
    (walked : v.walk .followed linkLimit (start cwd p) p.parts = .ok l)
    (absent : v.entry? l = none) : v.find .followed cwd p = .error (.code .missing) := by
  have reached : v.reach .followed cwd p = .ok l := by
    simp [reach, clean, Nat.not_le.mpr short, walked, Except.mapError]
  simp [find, reached, absent]

theorem look_of_find {cwd p : Path} {e : Entry} (found : v.find .followed cwd p = .ok l)
    (there : v.entry? l = some e) : v.look cwd p = .ok e := by
  simp [look, found, there]

/-- A name that is too long on the way makes the path too long to be looked at. -/
theorem look_of_walk_tooLong {cwd p : Path} (clean : Path.hasNull p.text = false)
    (refused : v.walk .followed linkLimit (start cwd p) p.parts = .error .nameTooLong) :
    v.look cwd p = .error (.code .nameTooLong) := by
  simp [look, find, reach, clean, refused, Except.mapError]

theorem isFile_of_find {cwd p : Path} {id : Nat} (found : v.find .followed cwd p = .ok l)
    (there : v.entry? l = some (.file id)) : v.isFile cwd p = true := by
  simp [isFile, look, found, there, isRegular]

theorem fileId?_of_find {cwd p : Path} {id : Nat} (found : v.find .followed cwd p = .ok l)
    (there : v.entry? l = some (.file id)) : v.fileId? cwd p = some id := by
  simp [fileId?, look, found, there]

/-- A walk fails for one of four reasons. -/
theorem walk_error {c : SystemCode} (failed : v.walk .followed links here names = .error c) :
    c = .missing ∨ c = .noDirectory ∨ c = .nameTooLong ∨ c = .linkLoop := by
  fun_induction walk v .followed links here names with
  | case1 | case8 | case10 => cases failed
  | case2 | case3 | case7 | case9 | case11 =>
      cases failed
      simp
  | case6 links here name others there directory named notUp made => simp at made
  | case4 | case5 | case12 | case13 =>
      rename_i ih
      exact ih failed

/-- Why a path cannot be followed to an entry. -/
theorem find_error {cwd p : Path} {r : Refusal} (failed : v.find .followed cwd p = .error r) :
    (r = .nullInPath ∧ Path.hasNull p.text = true) ∨ r = .code .missing ∨
      r = .code .noDirectory ∨ r = .code .linkLoop ∨ r = .code .nameTooLong := by
  simp only [find] at failed
  split at failed
  next reached =>
    cases failed
    simp only [reach] at reached
    split at reached
    next null =>
      cases reached
      exact Or.inl ⟨rfl, null⟩
    next =>
      split at reached
      next =>
        cases reached
        simp
      next =>
        cases walked : v.walk .followed linkLimit (start cwd p) p.parts with
        | ok l =>
            rw [walked] at reached
            cases reached
        | error c =>
            rw [walked] at reached
            cases reached
            rcases walk_error walked with rfl | rfl | rfl | rfl <;> simp
  next =>
    split at failed
    next => cases failed
    next =>
      cases failed
      simp

/-- A question about a path fails only if the path, or a name on the way, is too long. -/
theorem ask_error {cwd p : Path} {question : Entry → Bool} {f : Failure}
    (failed : v.ask cwd p question = .error f) :
    v.look cwd p = .error (.code .nameTooLong) ∧ f = .system .nameTooLong p.text none := by
  simp only [ask] at failed
  split at failed
  next => cases failed
  next r refused =>
    have notFound : v.find .followed cwd p = .error r := by
      simp only [look] at refused
      split at refused
      next unfound =>
        cases refused
        exact unfound
      next => cases refused
    rcases find_error notFound with ⟨rfl, -⟩ | rfl | rfl | rfl | rfl
    · cases failed
    · cases failed
    · cases failed
    · cases failed
    · cases failed
      exact ⟨refused, rfl⟩

/-! ## Names at the root -/

theorem octetLength_append (s t : String) :
    octetLength (s ++ t) = octetLength s + octetLength t := by
  simp [octetLength, Text.Utf8.octets, Text.Utf8.encode]

theorem clean_root {name : String} (named : IsName name) :
    Path.hasNull (Path.text ⟨.root, [name]⟩) = false := by
  rw [← Bool.not_eq_true, Path.hasNull_text]
  simp [named.2.2.2.2]

theorem short_root {name : String} (fits : octetLength name ≤ nameLimit) :
    octetLength (Path.text ⟨.root, [name]⟩) < pathLimit := by
  have text : Path.text ⟨.root, [name]⟩ = "/" ++ name := rfl
  have slash : octetLength "/" = 1 := by decide
  rw [text, octetLength_append, slash]
  simp only [nameLimit, pathLimit] at fits ⊢
  omega

theorem find_root_file {name : String} {id : Nat} (named : IsName name)
    (fits : octetLength name ≤ nameLimit) (there : v.entry? [name] = some (.file id)) :
    v.find .followed ⟨.root, []⟩ ⟨.root, [name]⟩ = .ok [name] := by
  have walked : v.walk .followed linkLimit [] [name] = .ok [name] :=
    walk_name named fits (entry?_root v) (by simp [there])
  exact find_of_walk (clean_root named) (short_root fits) walked there

theorem find_root_absent {name : String} (named : IsName name)
    (fits : octetLength name ≤ nameLimit) (absent : v.entry? [name] = none) :
    v.find .followed ⟨.root, []⟩ ⟨.root, [name]⟩ = .error (.code .missing) := by
  have walked : v.walk .followed linkLimit [] [name] = .ok [name] :=
    walk_name named fits (entry?_root v) (by simp [absent])
  exact find_of_walk_absent (clean_root named) (short_root fits) walked absent

/-! ## Walks without links -/

theorem mem_entries_of_present (inside : l ≠ []) {e : Entry} (there : v.entry? l = some e) :
    (l, e) ∈ v.entries := by
  rw [entry?_of_ne_root v inside] at there
  rcases List.lookup_eq_some_iff.mp there with ⟨before, after, same, _⟩
  simp [same]

theorem entry?_ne_link (noLinks : v.hasNoLinks = true) (target : String) :
    v.entry? l ≠ some (.link target) := by
  intro there
  by_cases inside : l = []
  · subst inside
    simp at there
  · have ordinary := List.all_eq_true.mp noLinks _ (mem_entries_of_present inside there)
    simp at ordinary

/-- Without links a walk ends where the names alone lead. -/
theorem walk_eq_descend (noLinks : v.hasNoLinks = true)
    (proper : ∀ name ∈ names, name ≠ "" ∧ name ≠ ".")
    (reached : v.walk .followed links here names = .ok l) : l = descend here names := by
  fun_induction walk v .followed links here names with
  | case1 links here =>
      cases reached
      rfl
  | case2 | case3 | case6 | case7 | case9 | case11 => cases reached
  | case4 links here name others there directory skipped ih =>
      simp [(proper name List.mem_cons_self).1, (proper name List.mem_cons_self).2] at skipped
  | case5 links here others there directory named ih =>
      rw [ih (fun name member => proper name (List.mem_cons_of_mem _ member)) reached]
      simp [descend]
  | case8 links here name others there directory named notUp notMade fits absent last =>
      cases reached
      rw [List.isEmpty_iff.mp last]
      simp [descend, notUp]
  | case10 links here name others there directory named notUp notMade fits target link last =>
      simp at last
  | case12 here name others there directory named notUp notMade fits target link notLast k ih =>
      exact absurd link (entry?_ne_link noLinks target)
  | case13 links here name others there directory named notUp notMade fits e notLink present ih =>
      rw [ih (fun name member => proper name (List.mem_cons_of_mem _ member)) reached]
      simp [descend, notUp]

end MediaNaming.Volume
