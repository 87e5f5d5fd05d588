import MediaNaming.Proofs.Volume.Plain
/-!
# Files that can be reached

A file is read through a path, and a path is refused for more reasons than that nothing is there:
its names and its text have limits. A path that a renaming has accepted keeps within them, so it
reaches whatever file stands at its place later on.
-/

namespace MediaNaming

namespace Volume

open MediaNaming.Path (IsName)

variable {v w : Volume} {cwd p q : Path} {l here : Location} {links : Nat}
  {names : List String} {bs : List UInt8}

/-! ## Reading -/

/-- A file can be read exactly if its path can be followed to it. -/
theorem read?_eq_ok_iff : v.read? cwd p = .ok bs ↔
    ∃ l id, v.find .followed cwd p = .ok l ∧ v.entry? l = some (.file id) ∧ v.content id = bs := by
  simp only [read?, look]
  cases v.find .followed cwd p with
  | error r => simp
  | ok l =>
      cases there : v.entry? l with
      | none => simp [there]
      | some e => cases e <;> simp [there]

/-! ## The limits of names -/

/-- All names that a walk has followed are within the limit. -/
theorem walk_fits (reached : v.walk .followed links here names = .ok l) :
    ∀ name ∈ names, name ≠ "" → name ≠ "." → name ≠ ".." → octetLength name ≤ nameLimit := by
  fun_induction walk v .followed links here names with
  | case1 => simp
  | case2 | case3 | case6 | case7 | case9 | case11 => cases reached
  | case4 links here first others there directory skipped ih =>
      intro name member notEmpty notDot notUp
      rcases List.mem_cons.mp member with rfl | later
      · simp [notEmpty, notDot] at skipped
      · exact ih reached name later notEmpty notDot notUp
  | case5 links here others there directory named ih =>
      intro name member notEmpty notDot notUp
      rcases List.mem_cons.mp member with rfl | later
      · exact absurd rfl notUp
      · exact ih reached name later notEmpty notDot notUp
  | case8 links here first others there directory named notUp notMade fits absent last =>
      intro name member notEmpty notDot notUp
      rw [List.isEmpty_iff.mp last, List.mem_singleton] at member
      rw [member]
      exact Nat.not_lt.mp fits
  | case10 links here first others there directory named notUp notMade fits target link last =>
      simp at last
  | case12 here first others there directory named _ notMade fits target link notLast k ih =>
      intro name member notEmpty notDot notUp
      rcases List.mem_cons.mp member with rfl | later
      · exact Nat.not_lt.mp fits
      · exact ih reached name (List.mem_append_right _ later) notEmpty notDot notUp
  | case13 links here first others there directory named _ notMade fits e notLink present ih =>
      intro name member notEmpty notDot notUp
      rcases List.mem_cons.mp member with rfl | later
      · exact Nat.not_lt.mp fits
      · exact ih reached name later notEmpty notDot notUp

/-- Absolute paths that the operating system looks at: nothing in them is refused or skipped. -/
structure Acceptable (p : Path) : Prop where
  anchored : p.anchor ≠ .relative
  clean : Path.hasNull p.text = false
  short : octetLength p.text < pathLimit
  noUp : ".." ∉ p.parts
  fits : ∀ part ∈ p.parts, octetLength part ≤ nameLimit

/-- A renaming accepts only such targets. -/
theorem rename?_acceptable (anchored : q.anchor ≠ .relative) (normal : q.IsNormal)
    (noUp : ".." ∉ q.parts) (renamed : v.rename? cwd p q = .ok w) : Acceptable q := by
  rcases rename?_ok renamed with ⟨-, clean, code⟩
  rcases renameCode_ok code with ⟨-, short, s, t, -, spot, moved⟩
  rcases spot?_ok spot with ⟨walked, -, parts⟩
  refine ⟨anchored, clean, short, noUp, ?_⟩
  intro part member
  rcases normal part member with ⟨notEmpty, notDot⟩
  have notUp : part ≠ ".." := by
    rintro rfl
    exact noUp member
  rw [parts] at member
  rcases List.mem_append.mp member with above | last
  · exact walk_fits walked part above notEmpty notDot notUp
  · rw [List.mem_singleton.mp last]
    exact (moveTo_fits moved).2

/-- Such a path reaches the file at its place. -/
theorem Acceptable.find (acceptable : Acceptable p) (wf : v.WellFormed) {id : Nat}
    (there : v.entry? p.place = some (.file id)) : v.find .followed cwd p = .ok p.place := by
  have started : start cwd p = [] := if_neg acceptable.anchored
  have placeFits : ∀ part ∈ p.place, octetLength part ≤ nameLimit := fun part member =>
    acceptable.fits part (List.mem_reverse.mp member)
  have walked : v.walk .followed linkLimit [] p.place.reverse = .ok p.place := by
    cases inside : p.place with
    | nil =>
        rw [inside, entry?_root] at there
        cases there
    | cons name dir =>
        rw [inside] at there placeFits
        have reached := walk_to_directory wf linkLimit
          (fun part member => placeFits part (List.mem_cons_of_mem _ member))
          (wf.directory_above there)
        rcases walk_append (List.cons_ne_nil name []) reached with ⟨left, -, continued⟩
        rw [List.reverse_cons, continued]
        apply walk_name (wf.isName there) (placeFits name List.mem_cons_self)
        · exact wf.directory_above there
        · simp [there]
  rw [Path.place, List.reverse_reverse] at walked
  exact find_of_walk acceptable.clean acceptable.short (by rw [started]; exact walked) there

end Volume

end MediaNaming
