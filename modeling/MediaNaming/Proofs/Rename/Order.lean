import MediaNaming.Proofs.Rename.Report
import MediaNaming.Proofs.Rename.Completion
import MediaNaming.Proofs.Volume.Steady
/-!
# Plans without conflicts

Where every pair of a plan names another file and a free place of its own, no pair stands in the
way of another: each file is moved, and where it ends up does not depend on the order of the
pairs. The places that a plan takes are `newPlace`, and the tree after a run in any order is the
tree before it with its entries at these places.
-/

namespace MediaNaming.Rename

open MediaNaming.Path (IsName)
open MediaNaming.Volume (Acceptable)

variable {cwd : Path} {v w : Volume} {pair other : Value × Value} {plan order rest : Entries}
  {file : Path} {name : String} {id : Nat} {l : Location}

/-! ## Pairs and their places -/

/-- The absolute path of the file that a pair is about. -/
def sourceOf (cwd : Path) (pair : Value × Value) : Path :=
  Path.absolute cwd (pair.1.filePath?.getD ⟨.relative, []⟩)

/-- The path that a pair renames its file to. -/
def targetOf (cwd : Path) (pair : Value × Value) : Path :=
  match pair.2 with
  | .text name => (sourceOf cwd pair).parent.child name
  | _ => sourceOf cwd pair

/-- A pair of an existing file and a valid name under which nothing stands next to the file. Both
paths are short enough for the operating system. -/
structure Ready (cwd : Path) (v : Volume) (pair : Value × Value) : Prop where
  source : ∃ file, pair.1.filePath? = some file ∧ file.IsNormal ∧ v.isFile cwd file = true
  name : ∃ name, pair.2 = .text name ∧ IsName name ∧
    Volume.octetLength name ≤ Volume.nameLimit
  sourceShort : Volume.octetLength (sourceOf cwd pair).text < Volume.pathLimit
  targetShort : Volume.octetLength (targetOf cwd pair).text < Volume.pathLimit
  absent : v.entry? (targetOf cwd pair).place = none

/-- Two pairs are about different files, and give them different places. -/
def Apart (cwd : Path) (pair other : Value × Value) : Prop :=
  (sourceOf cwd pair).place ≠ (sourceOf cwd other).place ∧
    (targetOf cwd pair).place ≠ (targetOf cwd other).place

/-- Plans of which no pair can stand in the way of another. -/
structure ConflictFree (cwd : Path) (v : Volume) (plan : Entries) : Prop where
  ready : ∀ pair ∈ plan, Ready cwd v pair
  apart : plan.Pairwise (Apart cwd)

/-- Where an entry is after all pairs of a plan have renamed their files. -/
def newPlace (cwd : Path) : Entries → Location → Location
  | [], l => l
  | pair :: rest, l =>
    if l = (sourceOf cwd pair).place then (targetOf cwd pair).place else newPlace cwd rest l

theorem newPlace_of_ne (others : ∀ pair ∈ plan, (sourceOf cwd pair).place ≠ l) :
    newPlace cwd plan l = l := by
  induction plan with
  | nil => rfl
  | cons pair rest ih =>
      have notHere := others pair List.mem_cons_self
      rw [newPlace, if_neg notHere.symm]
      exact ih fun other later => others other (List.mem_cons_of_mem _ later)

theorem Apart.symm (apart : Apart cwd pair other) : Apart cwd other pair :=
  ⟨apart.1.symm, apart.2.symm⟩

/-- The places that a plan takes do not depend on the order of its pairs. -/
theorem newPlace_perm (reordered : order.Perm plan) (apart : plan.Pairwise (Apart cwd)) :
    newPlace cwd order = newPlace cwd plan := by
  induction reordered with
  | nil => rfl
  | cons pair _ ih =>
      funext l
      rw [newPlace, newPlace, ih (List.pairwise_cons.mp apart).2]
  | swap pair other rest =>
      have different := (List.pairwise_cons.mp apart).1 other List.mem_cons_self
      funext l
      simp only [newPlace]
      by_cases here : l = (sourceOf cwd pair).place
      · have notThere : l ≠ (sourceOf cwd other).place := by
          rw [here]
          exact different.1
        simp [here, different.1]
      · simp [here]
  | trans _ second ihFirst ihSecond =>
      exact (ihFirst (second.symm.pairwise apart Apart.symm)).trans (ihSecond apart)

/-! ## One pair -/

/-- What a pair meets when its turn comes: its file at the place of its path, a name that fits and
nothing at the place of this name. -/
structure Job (cwd : Path) (v : Volume) (pair : Value × Value) (file : Path) (name : String)
    (id : Nat) : Prop where
  source : pair.1.filePath? = some file
  given : pair.2 = .text name
  named : IsName name
  accepted : Acceptable (Path.absolute cwd file)
  target : Acceptable ((Path.absolute cwd file).parent.child name)
  found : v.find .followed cwd file = .ok (Path.absolute cwd file).place
  home : v.entry? (Path.absolute cwd file).place = some (.file id)
  absent : v.entry? (name :: (Path.absolute cwd file).place.tail) = none

/-- A path next to a file is acceptable if it is short enough and its name fits. -/
theorem acceptable_sibling (accepted : Acceptable (Path.absolute cwd file)) (named : IsName name)
    (fits : Volume.octetLength name ≤ Volume.nameLimit)
    (short : Volume.octetLength ((Path.absolute cwd file).parent.child name).text <
      Volume.pathLimit) : Acceptable ((Path.absolute cwd file).parent.child name) := by
  have parts : ∀ part ∈ ((Path.absolute cwd file).parent.child name).parts,
      part ∈ (Path.absolute cwd file).parts ∨ part = name := by
    intro part member
    rcases List.mem_append.mp member with above | last
    · exact Or.inl ((List.dropLast_sublist _).subset above)
    · exact Or.inr (List.mem_singleton.mp last)
  constructor
  · exact accepted.anchored
  · have clean := accepted.clean
    rw [← Bool.not_eq_true, Path.hasNull_text] at clean ⊢
    intro null
    obtain ⟨part, member, holds⟩ := null
    rcases parts part member with inside | last
    · exact clean ⟨part, inside, holds⟩
    · rw [last, named.2.2.2.2] at holds
      cases holds
  · exact short
  · intro member
    rcases parts ".." member with inside | last
    · exact accepted.noUp inside
    · exact named.2.2.1 last.symm
  · intro part member
    rcases parts part member with inside | last
    · exact accepted.fits part inside
    · rw [last]
      exact fits

/-- A pair that is ready meets its job on a tree of plain files. -/
theorem Ready.job (ready : Ready cwd v pair) (plain : v.Plain) (working : cwd.IsWorkingDirectory)
    (fits : ∀ l e, v.entry? l = some e → ∀ part ∈ l, Volume.octetLength part ≤ Volume.nameLimit) :
    ∃ file name id, Job cwd v pair file name id := by
  obtain ⟨file, source, normal, isFile⟩ := ready.source
  obtain ⟨name, given, named, nameFits⟩ := ready.name
  obtain ⟨id, found, home⟩ := Volume.file_at_place plain.noLinks working normal isFile
  have sourceShort := ready.sourceShort
  have targetShort := ready.targetShort
  have absent := ready.absent
  rw [targetOf, given] at targetShort absent
  rw [sourceOf, source, Option.getD_some] at sourceShort targetShort absent
  have accepted : Acceptable (Path.absolute cwd file) := {
    anchored := Path.absolute_anchor working file
    clean := clean_absolute working (clean_of_isFile isFile)
    short := sourceShort
    noUp := Path.absolute_no_up
    fits := fun part member => fits _ _ home part (List.mem_reverse.mpr member) }
  dsimp only at targetShort absent
  rw [Path.place_sibling] at absent
  exact ⟨file, name, id, {
    source := source
    given := given
    named := named
    accepted := accepted
    target := acceptable_sibling accepted named nameFits targetShort
    found := found
    home := home
    absent := absent }⟩

namespace Job

theorem sourceOf_eq (job : Job cwd v pair file name id) :
    sourceOf cwd pair = Path.absolute cwd file := by
  rw [sourceOf, job.source, Option.getD_some]

theorem targetOf_eq (job : Job cwd v pair file name id) :
    targetOf cwd pair = (Path.absolute cwd file).parent.child name := by
  rw [targetOf, job.given, job.sourceOf_eq]

/-- The file stands at its place. -/
theorem atSource (job : Job cwd v pair file name id) :
    v.entry? (sourceOf cwd pair).place = some (.file id) := by
  rw [job.sourceOf_eq]
  exact job.home

theorem targetPlace (job : Job cwd v pair file name id) :
    (targetOf cwd pair).place = name :: (Path.absolute cwd file).place.tail := by
  rw [job.targetOf_eq, Path.place_sibling]

theorem atTarget (job : Job cwd v pair file name id) :
    v.entry? (targetOf cwd pair).place = none := by
  rw [job.targetPlace]
  exact job.absent

/-- The place of a file is a name in a directory. -/
theorem place_eq (job : Job cwd v pair file name id) :
    ∃ last, (Path.absolute cwd file).place = last :: (Path.absolute cwd file).place.tail := by
  cases place : (Path.absolute cwd file).place with
  | nil =>
      have home := job.home
      rw [place, Volume.entry?_root] at home
      cases home
  | cons last dir => exact ⟨last, rfl⟩

theorem movable (job : Job cwd v pair file name id) (wf : v.WellFormed) :
    v.Movable (sourceOf cwd pair).place (targetOf cwd pair).place := by
  obtain ⟨last, place⟩ := job.place_eq
  have home := job.home
  rw [job.targetPlace, job.sourceOf_eq, place]
  rw [place] at home
  exact Volume.movable_of_file wf home job.absent job.named

/-- The turn of such a pair moves the file. -/
theorem renamePair (job : Job cwd v pair file name id) (wf : v.WellFormed) :
    (Rename.renamePair (Disk.direct cwd) v pair.1 pair.2).outcome =
      .ok (⟨pair.1, pair.2, some (targetOf cwd pair), none, ""⟩,
        v.move (sourceOf cwd pair).place (targetOf cwd pair).place) := by
  obtain ⟨last, place⟩ := job.place_eq
  have directory : v.entry? (Path.absolute cwd file).place.tail = some .directory := by
    have home := job.home
    rw [place] at home
    exact wf.directory_above home
  have isFile : (Disk.direct cwd).isFile v file = .ok true :=
    congrArg Except.ok (Volume.isFile_of_find job.found job.home)
  have beside := Path.place_sibling (Path.absolute cwd file) name
  have absent : v.entry? ((Path.absolute cwd file).parent.child name).place = none := by
    rw [beside]
    exact job.absent
  have different : (Path.absolute cwd file).parent.child name ≠ Path.absolute cwd file := by
    intro same
    rw [same, job.home] at absent
    cases absent
  have missing : v.find .followed cwd ((Path.absolute cwd file).parent.child name) =
      .error (.code .missing) := job.target.find_absent beside wf directory job.named absent
  have nothing : v.exists? cwd ((Path.absolute cwd file).parent.child name) = .ok false := by
    simp [Volume.exists?, Volume.ask, Volume.look, missing, Volume.Refusal.isAbsence]
  have free : isTaken (Disk.direct cwd) v (Path.absolute cwd file)
      ((Path.absolute cwd file).parent.child name) = .ok false := by
    rw [isTaken_direct, nothing]
  have moved : v.rename? cwd (Path.absolute cwd file)
      ((Path.absolute cwd file).parent.child name) =
        .ok (v.move (Path.absolute cwd file).place
          ((Path.absolute cwd file).parent.child name).place) :=
    Volume.rename?_of_file wf job.accepted job.target place beside job.home absent
  rw [job.targetOf_eq, job.sourceOf_eq, job.given]
  exact renamePair_renamed job.source isFile job.named different free moved

/-- It changes what is at two places. -/
theorem view (job : Job cwd v pair file name id) (wf : v.WellFormed) :
    Volume.entry? (v.move (sourceOf cwd pair).place (targetOf cwd pair).place) =
      Function.update (Function.update v.entry? (sourceOf cwd pair).place none)
        (targetOf cwd pair).place (some (.file id)) :=
  Volume.entry?_move_file wf (job.movable wf) job.atSource job.atTarget

/-- The other pairs meet their jobs after it. -/
theorem kept {otherFile : Path} {otherName : String} {otherId : Nat}
    (job : Job cwd v pair file name id) (wf : v.WellFormed)
    (later : Job cwd v other otherFile otherName otherId) (apart : Apart cwd pair other) :
    Job cwd (v.move (sourceOf cwd pair).place (targetOf cwd pair).place) other otherFile
      otherName otherId := by
  have view := job.view wf
  have stays : ∀ {k : Location} {e : Entry}, v.entry? k = some e →
      k ≠ (sourceOf cwd pair).place →
        Volume.entry? (v.move (sourceOf cwd pair).place (targetOf cwd pair).place) k = some e := by
    intro k e there notSource
    have notTarget : k ≠ (targetOf cwd pair).place := by
      intro same
      rw [same, job.atTarget] at there
      cases there
    rw [view, Function.update_of_ne notTarget, Function.update_of_ne notSource, there]
  have keeps : Volume.Keeps v
      (v.move (sourceOf cwd pair).place (targetOf cwd pair).place) := by
    intro k e there noFile
    apply stays there
    intro same
    rw [same, job.atSource] at there
    cases there
    exact noFile id rfl
  have home := stays later.home (by rw [← later.sourceOf_eq]; exact apart.1.symm)
  have absent : Volume.entry? (v.move (sourceOf cwd pair).place (targetOf cwd pair).place)
      (targetOf cwd other).place = none := by
    rw [view, Function.update_of_ne apart.2.symm]
    by_cases same : (targetOf cwd other).place = (sourceOf cwd pair).place
    · rw [same, Function.update_self]
    · rw [Function.update_of_ne same, later.atTarget]
  rw [later.targetPlace] at absent
  exact { later with
    found := Volume.find_keeps keeps later.found home (by simp)
    home := home
    absent := absent }

/-- Moving the file is moving what is at one place. -/
theorem move_eq (job : Job cwd v pair file name id) (wf : v.WellFormed) :
    v.move (sourceOf cwd pair).place (targetOf cwd pair).place =
      v.relabel fun l => if l = (sourceOf cwd pair).place then (targetOf cwd pair).place else l :=
  Volume.move_eq_relabel wf job.atSource job.atTarget

end Job

/-- The turn of a ready pair moves its file. -/
theorem Ready.renamePair (ready : Ready cwd v pair) (plain : v.Plain)
    (working : cwd.IsWorkingDirectory)
    (fits : ∀ l e, v.entry? l = some e → ∀ part ∈ l, Volume.octetLength part ≤ Volume.nameLimit) :
    (Rename.renamePair (Disk.direct cwd) v pair.1 pair.2).outcome =
      .ok (⟨pair.1, pair.2, some (targetOf cwd pair), none, ""⟩,
        v.move (sourceOf cwd pair).place (targetOf cwd pair).place) := by
  obtain ⟨file, name, id, job⟩ := ready.job plain working fits
  exact job.renamePair plain.wellFormed

/-! ## Runs -/

/-- A run of pairs that all meet their jobs renames each, and leaves the entries at the places that
the pairs take. -/
theorem renameAll_jobs (wf : v.WellFormed)
    (jobs : ∀ pair ∈ plan, ∃ file name id, Job cwd v pair file name id)
    (apart : plan.Pairwise (Apart cwd)) :
    let run := renameAll (Disk.direct cwd) v plan
    run.stop = none ∧ (∀ o ∈ run.outcomes, o.isRenamed = true) ∧
      run.volume = v.relabel (newPlace cwd plan) := by
  induction plan generalizing v with
  | nil =>
      have same : v.relabel (newPlace cwd []) = v := by simp [Volume.relabel, newPlace]
      exact ⟨rfl, by simp [renameAll], same.symm⟩
  | cons pair rest ih =>
      obtain ⟨file, name, id, job⟩ := jobs pair List.mem_cons_self
      obtain ⟨fromPair, inRest⟩ := List.pairwise_cons.mp apart
      have first := job.renamePair wf
      have moved := Volume.move_wellFormed wf (job.movable wf)
      have later : ∀ other ∈ rest, ∃ file name id,
          Job cwd (v.move (sourceOf cwd pair).place (targetOf cwd pair).place) other file name
            id := by
        intro other member
        obtain ⟨otherFile, otherName, otherId, otherJob⟩ :=
          jobs other (List.mem_cons_of_mem _ member)
        exact ⟨otherFile, otherName, otherId, job.kept wf otherJob (fromPair other member)⟩
      obtain ⟨ended, renamed, volume⟩ := ih moved later inRest
      -- no later pair is about the place that this one has taken
      have taken : newPlace cwd rest (targetOf cwd pair).place = (targetOf cwd pair).place := by
        apply newPlace_of_ne
        intro other member same
        obtain ⟨otherFile, otherName, otherId, otherJob⟩ :=
          jobs other (List.mem_cons_of_mem _ member)
        have there := otherJob.atSource
        rw [same, job.atTarget] at there
        cases there
      have places : (fun l => newPlace cwd rest
          (if l = (sourceOf cwd pair).place then (targetOf cwd pair).place else l)) =
            newPlace cwd (pair :: rest) := by
        funext l
        rw [newPlace]
        split
        next => exact taken
        next => rfl
      simp only [renameAll, first]
      refine ⟨ended, ?_, ?_⟩
      · intro o member
        rcases List.mem_cons.mp member with here | further
        · rw [here]
          rfl
        · exact renamed o further
      · rw [volume, job.move_eq wf, ← places]
        simp [Volume.relabel]

/-- A plan without conflicts renames every file, and leaves the same tree, in whatever order its
pairs are executed. -/
theorem execute_any_order (plain : v.Plain) (working : cwd.IsWorkingDirectory)
    (fits : ∀ l e, v.entry? l = some e → ∀ part ∈ l, Volume.octetLength part ≤ Volume.nameLimit)
    (free : ConflictFree cwd v plan) (reordered : order.Perm plan) :
    let run := execute (Disk.direct cwd) v (.mapping order)
    (∃ outcomes, run.outcome = .ok outcomes ∧ List.Forall₂ Answers order outcomes ∧
        ∀ o ∈ outcomes, o.isRenamed = true) ∧
      run.volume = v.relabel (newPlace cwd plan) ∧
      run.volume = (execute (Disk.direct cwd) v (.mapping plan)).volume := by
  intro run
  have settles : ∀ {pairs : Entries}, pairs.Perm plan →
      let run := renameAll (Disk.direct cwd) v pairs
      run.stop = none ∧ (∀ o ∈ run.outcomes, o.isRenamed = true) ∧
        run.volume = v.relabel (newPlace cwd plan) := by
    intro pairs same
    rw [← newPlace_perm same free.apart]
    apply renameAll_jobs plain.wellFormed
    · intro pair member
      exact (free.ready pair (same.mem_iff.mp member)).job plain working fits
    · exact same.symm.pairwise free.apart Apart.symm
  obtain ⟨ended, renamed, volume⟩ := settles reordered
  obtain ⟨-, -, inOrder⟩ := settles (List.Perm.refl plan)
  refine ⟨⟨_, ?_, renameAll_answers ended, renamed⟩, ?_, ?_⟩
  · rw [execute_outcome, ended]
  · rw [execute_volume, volume]
  · rw [execute_volume, execute_volume, volume, inOrder]

/-! ## Pairs at the root -/

section Root

variable {a : Anchor} {given : String}

/-- A name of a file at the root is an acceptable path. -/
theorem acceptable_root (anchored : a ≠ .relative) (named : IsName name)
    (fits : Volume.octetLength name ≤ Volume.nameLimit) : Acceptable ⟨a, [name]⟩ := by
  constructor
  · exact anchored
  · rw [← Bool.not_eq_true, Path.hasNull_text]
    simp [named.2.2.2.2]
  · have slashes : Volume.octetLength a.text ≤ 2 := by
      cases a <;> decide
    have text : Path.text ⟨a, [name]⟩ = a.text ++ name := by
      simp [Path.text, Text.joined]
    rw [text, Volume.octetLength_append]
    simp only [Volume.nameLimit, Volume.pathLimit] at fits ⊢
    omega
  · simpa using Ne.symm named.2.2.1
  · intro part member
    rw [List.mem_singleton.mp member]
    exact fits

/-- A file at the root is ready for a free name. -/
theorem ready_root (wf : v.WellFormed) (anchored : a ≠ .relative) (named : IsName name)
    (fits : Volume.octetLength name ≤ Volume.nameLimit) (there : v.entry? [name] = some (.file id))
    (givenNamed : IsName given) (givenFits : Volume.octetLength given ≤ Volume.nameLimit)
    (absent : v.entry? [given] = none) :
    Ready ⟨.root, []⟩ v (.path ⟨a, [name]⟩, .text given) := by
  have accepted := acceptable_root anchored named fits
  have absolute : Path.absolute ⟨.root, []⟩ ⟨a, [name]⟩ = ⟨a, [name]⟩ :=
    Path.absolute_of_no_up anchored accepted.noUp
  have source : sourceOf ⟨.root, []⟩ (.path ⟨a, [name]⟩, .text given) = ⟨a, [name]⟩ := absolute
  have target : targetOf ⟨.root, []⟩ (.path ⟨a, [name]⟩, .text given) = ⟨a, [given]⟩ := by
    rw [targetOf, source]
    rfl
  constructor
  · refine ⟨_, rfl, ?_, Volume.isFile_of_find (accepted.find wf there) there⟩
    intro part member
    rw [List.mem_singleton.mp member]
    exact ⟨named.1, named.2.1⟩
  · exact ⟨given, rfl, givenNamed, givenFits⟩
  · rw [source]
    exact accepted.short
  · rw [target]
    exact (acceptable_root anchored givenNamed givenFits).short
  · rw [target]
    exact absent

/-- A file at the root takes a free name, whichever root its path has. -/
theorem renamePair_spelled (plain : v.Plain)
    (listed : ∀ e ∈ v.entries, ∀ part ∈ e.1, Volume.octetLength part ≤ Volume.nameLimit)
    (anchored : a ≠ .relative) (named : IsName name) (there : v.entry? [name] = some (.file id))
    (givenNamed : IsName given) (givenFits : Volume.octetLength given ≤ Volume.nameLimit)
    (absent : v.entry? [given] = none) :
    (renamePair (Disk.direct ⟨.root, []⟩) v (.path ⟨a, [name]⟩) (.text given)).outcome =
      .ok (⟨.path ⟨a, [name]⟩, .text given, some ⟨a, [given]⟩, none, ""⟩,
        v.move [name] [given]) := by
  have everywhere := fits_of_entries listed
  have fits : Volume.octetLength name ≤ Volume.nameLimit :=
    everywhere [name] _ there name List.mem_cons_self
  have ready := ready_root plain.wellFormed anchored named fits there givenNamed givenFits absent
  have moved := ready.renamePair plain (by decide) everywhere
  have absolute : Path.absolute ⟨.root, []⟩ ⟨a, [name]⟩ = ⟨a, [name]⟩ :=
    Path.absolute_of_no_up anchored (acceptable_root anchored named fits).noUp
  have source : sourceOf ⟨.root, []⟩ (.path ⟨a, [name]⟩, .text given) = ⟨a, [name]⟩ := absolute
  have target : targetOf ⟨.root, []⟩ (.path ⟨a, [name]⟩, .text given) = ⟨a, [given]⟩ := by
    rw [targetOf, source]
    rfl
  rw [source, target] at moved
  exact moved

end Root

/-- Two photos take their names in the other order as well. -/
theorem execute_any_order_twoPhotos :
    (execute (Disk.direct ⟨.root, []⟩) twoPhotos (.mapping
      [(.path ⟨.root, ["b"]⟩, .text "d"), (.path ⟨.root, ["a"]⟩, .text "c")])).volume =
      ⟨[(["c"], .file 0), (["d"], .file 1)], [(0, [97]), (1, [98])]⟩ := by
  have plain : twoPhotos.Plain := by decide
  have fits := fits_of_entries (v := twoPhotos) (by decide)
  have free : ConflictFree ⟨.root, []⟩ twoPhotos
      [(.path ⟨.root, ["a"]⟩, .text "c"), (.path ⟨.root, ["b"]⟩, .text "d")] := by
    constructor
    · intro pair member
      rcases List.mem_cons.mp member with first | later
      · rw [first]
        exact ready_root plain.wellFormed (by decide) (by decide) (by decide) rfl (by decide)
          (by decide) rfl
      · rw [List.mem_singleton.mp later]
        exact ready_root plain.wellFormed (by decide) (by decide) (by decide) rfl (by decide)
          (by decide) rfl
    · apply List.pairwise_pair.mpr
      constructor
      · decide
      · decide
  exact (execute_any_order plain (by decide) fits free (List.Perm.swap _ _ _)).2.1

/-! ## What different paths do not settle -/

/-- The photo under both spellings of the root, with two names. -/
def spelledTwice : Entries :=
  [(.path ⟨.doubleRoot, ["a"]⟩, .text "b"), (.path ⟨.root, ["a"]⟩, .text "c")]

/-- The first pair takes the photo away from the second. -/
theorem spelledTwice_executed :
    (execute (Disk.direct ⟨.root, []⟩) photo (.mapping spelledTwice)).outcome = .ok
      [⟨.path ⟨.doubleRoot, ["a"]⟩, .text "b", some ⟨.doubleRoot, ["b"]⟩, none, ""⟩,
        ⟨.path ⟨.root, ["a"]⟩, .text "c", none, some .fileNotValid,
          "could not access source file"⟩] := by
  have renamed : (renamePair (Disk.direct ⟨.root, []⟩) photo (.path ⟨.doubleRoot, ["a"]⟩)
      (.text "b")).outcome =
      .ok (⟨.path ⟨.doubleRoot, ["a"]⟩, .text "b", some ⟨.doubleRoot, ["b"]⟩, none, ""⟩,
        renamedPhoto) :=
    renamePair_spelled (by decide) (by decide) (by decide) (by decide) rfl (by decide) (by decide)
      rfl
  rw [execute_outcome]
  simp only [spelledTwice, renameAll, renamed, renamedPhoto_skipped]

/-- A photo below a row of directories that all have one name. -/
def shaft (name : String) (depth : Nat) : Volume :=
  ⟨(List.range depth).map (fun k => (List.replicate (k + 1) name, .directory)) ++
    [("a" :: List.replicate depth name, .file 0)], [(0, [97])]⟩

theorem shaft_distinct (name : String) (depth : Nat) :
    ((shaft name depth).entries.map Prod.fst).Nodup := by
  apply List.Nodup.of_map List.length
  have lengths : ((shaft name depth).entries.map Prod.fst).map List.length =
      (List.range (depth + 1)).map (· + 1) := by
    simp [shaft, List.range_succ, Function.comp_def]
  rw [lengths]
  exact List.nodup_range.map (fun m n same => Nat.succ.inj same)

theorem shaft_directory (name : String) {depth k : Nat} (inside : k ≤ depth) :
    Volume.entry? (shaft name depth) (List.replicate k name) = some .directory := by
  cases k with
  | zero => exact Volume.entry?_root _
  | succ k =>
      rw [Volume.entry?_of_ne_root _ (by simp),
        Volume.lookup_eq_some_iff_mem (shaft_distinct name depth)]
      apply List.mem_append_left
      exact List.mem_map.mpr ⟨k, List.mem_range.mpr inside, rfl⟩

theorem shaft_file (name : String) (depth : Nat) :
    Volume.entry? (shaft name depth) ("a" :: List.replicate depth name) = some (.file 0) := by
  rw [Volume.entry?_of_ne_root _ (by simp),
    Volume.lookup_eq_some_iff_mem (shaft_distinct name depth)]
  simp [shaft]

theorem shaft_plain (named : IsName name) (depth : Nat) : (shaft name depth).Plain where
  wellFormed := by
    refine ⟨shaft_distinct name depth, ?_⟩
    intro e member
    rcases List.mem_append.mp member with above | last
    · obtain ⟨k, inRange, same⟩ := List.mem_map.mp above
      rw [← same]
      refine ⟨named, ?_⟩
      exact shaft_directory name (Nat.le_of_lt (List.mem_range.mp inRange))
    · rw [List.mem_singleton.mp last]
      have fileNamed : IsName "a" := by decide
      exact ⟨fileNamed, shaft_directory name (Nat.le_refl depth)⟩
  noLinks := by
    simp [Volume.hasNoLinks, shaft]
  unique := by
    simp [Volume.fileIds, shaft, List.filterMap_map]

/-! ### Long paths -/

theorem octetLength_joined (name last : String) (depth : Nat) :
    Volume.octetLength (Text.joined "/" (List.replicate depth name ++ [last])) =
      depth * (Volume.octetLength name + 1) + Volume.octetLength last := by
  have slash : Volume.octetLength "/" = 1 := by decide
  induction depth with
  | zero => simp [Text.joined]
  | succ depth ih =>
      have step : Text.joined "/" (List.replicate (depth + 1) name ++ [last]) =
          name ++ "/" ++ Text.joined "/" (List.replicate depth name ++ [last]) := by
        cases depth <;> rfl
      rw [step, Volume.octetLength_append, Volume.octetLength_append, ih, slash, Nat.succ_mul]
      omega

/-- The path of a name in the innermost directory. -/
def shaftPath (name : String) (depth : Nat) (last : String) : Path :=
  ⟨.root, List.replicate depth name ++ [last]⟩

theorem octetLength_shaftPath (name last : String) (depth : Nat) :
    Volume.octetLength (shaftPath name depth last).text =
      depth * (Volume.octetLength name + 1) + Volume.octetLength last + 1 := by
  have slash : Volume.octetLength "/" = 1 := by decide
  have text : (shaftPath name depth last).text =
      "/" ++ Text.joined "/" (List.replicate depth name ++ [last]) := rfl
  rw [text, Volume.octetLength_append, octetLength_joined, slash]
  omega

theorem mem_shaftPath {name last part : String} {depth : Nat}
    (member : part ∈ (shaftPath name depth last).parts) : part = name ∨ part = last := by
  rcases List.mem_append.mp member with above | only
  · exact Or.inl (List.eq_of_mem_replicate above)
  · exact Or.inr (List.mem_singleton.mp only)

theorem shaftPath_clean {name last : String} {depth : Nat} (named : IsName name)
    (lastNamed : IsName last) : Path.hasNull (shaftPath name depth last).text = false := by
  rw [← Bool.not_eq_true, Path.hasNull_text]
  intro null
  obtain ⟨part, member, holds⟩ := null
  rcases mem_shaftPath member with above | only
  · rw [above, named.2.2.2.2] at holds
    cases holds
  · rw [only, lastNamed.2.2.2.2] at holds
    cases holds

theorem shaftPath_acceptable {name last : String} {depth : Nat} (named : IsName name)
    (lastNamed : IsName last) (fits : Volume.octetLength name ≤ Volume.nameLimit)
    (lastFits : Volume.octetLength last ≤ Volume.nameLimit)
    (short : Volume.octetLength (shaftPath name depth last).text < Volume.pathLimit) :
    Acceptable (shaftPath name depth last) := by
  constructor
  · exact Anchor.noConfusion
  · exact shaftPath_clean named lastNamed
  · exact short
  · intro member
    rcases mem_shaftPath member with above | only
    · exact named.2.2.1 above.symm
    · exact lastNamed.2.2.1 only.symm
  · intro part member
    rcases mem_shaftPath member with above | only
    · rw [above]
      exact fits
    · rw [only]
      exact lastFits

/-- The photo is a file as long as its path is not too long. -/
theorem shaft_isFile {depth : Nat} (accepted : Acceptable (shaftPath name depth "a"))
    (named : IsName name) :
    (shaft name depth).isFile ⟨.root, []⟩ (shaftPath name depth "a") = true := by
  have there :
      Volume.entry? (shaft name depth) (shaftPath name depth "a").place = some (.file 0) := by
    have place : (shaftPath name depth "a").place = "a" :: List.replicate depth name := by
      simp [shaftPath, Path.place]
    rw [place]
    exact shaft_file name depth
  exact Volume.isFile_of_find (accepted.find (shaft_plain named depth).wellFormed there) there

/-- Next to the photo nothing has the name of the directories. -/
theorem shaft_absent {depth : Nat} (different : name ≠ "a") :
    Volume.entry? (shaft name depth) (shaftPath name depth name).place = none := by
  have place : (shaftPath name depth name).place = List.replicate (depth + 1) name := by
    simp [shaftPath, Path.place, List.replicate_succ]
  rw [place]
  cases there : Volume.entry? (shaft name depth) (List.replicate (depth + 1) name) with
  | none => rfl
  | some e =>
      rw [Volume.entry?_of_ne_root _ (by simp),
        Volume.lookup_eq_some_iff_mem (shaft_distinct name depth)] at there
      rcases List.mem_append.mp there with above | last
      · obtain ⟨k, inRange, same⟩ := List.mem_map.mp above
        have lengths := congrArg List.length (Prod.mk.inj same).1
        rw [List.length_replicate, List.length_replicate] at lengths
        have bound := List.mem_range.mp inRange
        omega
      · have same := (Prod.mk.inj (List.mem_singleton.mp last)).1
        rw [List.replicate_succ] at same
        exact absurd (List.cons.inj same).1 different

/-- A name of the directories that leaves the path too long stops the run. -/
theorem shaft_stops {depth : Nat} (named : IsName name)
    (fits : Volume.octetLength name ≤ Volume.nameLimit)
    (short : Volume.octetLength (shaftPath name depth "a").text < Volume.pathLimit)
    (exceeds : Volume.pathLimit ≤ Volume.octetLength (shaftPath name depth name).text) :
    ¬∃ outcomes, (execute (Disk.direct ⟨.root, []⟩) (shaft name depth)
      (.mapping [(.path (shaftPath name depth "a"), .text name)])).outcome = .ok outcomes := by
  have accepted : Acceptable (shaftPath name depth "a") :=
    shaftPath_acceptable named (by decide) fits (by decide) short
  have absolute : Path.absolute ⟨.root, []⟩ (shaftPath name depth "a") =
      shaftPath name depth "a" := Path.absolute_of_no_up accepted.anchored accepted.noUp
  have isFile := shaft_isFile accepted named
  have beside : (shaftPath name depth "a").parent.child name = shaftPath name depth name := by
    simp [shaftPath, Path.parent, Path.child]
  have refused : (shaft name depth).look ⟨.root, []⟩ (shaftPath name depth name) =
      .error (.code .nameTooLong) := by
    simp [Volume.look, Volume.find, Volume.reach, shaftPath_clean named named, exceeds]
  have different : shaftPath name depth name ≠ shaftPath name depth "a" := by
    intro same
    rw [← same] at short
    exact absurd short (Nat.not_lt.mpr exceeds)
  have tooLong : TooLong (shaft name depth) ⟨.root, []⟩ (.path (shaftPath name depth "a"))
      (.text name) (shaftPath name depth name) := by
    refine ⟨shaftPath name depth "a", name, rfl, isFile, rfl, named, ?_, ?_, refused⟩
    · rw [absolute, beside]
    · rw [absolute]
      exact different
  have stopped := renameAll_stops [] [] (renamePair_tooLong tooLong)
  intro returned
  obtain ⟨outcomes, ended⟩ := returned
  rw [execute_outcome] at ended
  split at ended
  next => cases ended
  next nothing => exact stopped nothing

/-- It is not enough that the paths of the files and the paths that they are to get are different,
that the names are valid and that nothing has them. Two paths of one file can differ in how the
root is written, and then only one of two pairs finds the file; and a valid name can still make a
path that is too long to be looked at. -/
theorem differentPaths_insufficient :
    let cwd : Path := ⟨.root, []⟩
    let long := lettersName 255
    (photo.Plain ∧ (∀ pair ∈ spelledTwice, Ready cwd photo pair) ∧
        spelledTwice.Pairwise (fun pair other =>
          sourceOf cwd pair ≠ sourceOf cwd other ∧ targetOf cwd pair ≠ targetOf cwd other) ∧
        ∃ outcomes, (execute (Disk.direct cwd) photo (.mapping spelledTwice)).outcome =
          .ok outcomes ∧ ∃ o ∈ outcomes, o.isRenamed = false) ∧
      ((shaft long 15).Plain ∧ IsName long ∧ Volume.octetLength long ≤ Volume.nameLimit ∧
        (shaft long 15).isFile cwd (shaftPath long 15 "a") = true ∧
        Volume.entry? (shaft long 15) (shaftPath long 15 long).place = none ∧
        ¬∃ outcomes, (execute (Disk.direct cwd) (shaft long 15)
          (.mapping [(.path (shaftPath long 15 "a"), .text long)])).outcome = .ok outcomes) := by
  intro cwd long
  constructor
  · have plain : photo.Plain := by decide
    refine ⟨plain, ?_, ?_, _, spelledTwice_executed, _, List.mem_cons_of_mem _ List.mem_cons_self,
      rfl⟩
    · intro pair member
      rcases List.mem_cons.mp member with first | later
      · rw [first]
        exact ready_root plain.wellFormed (by decide) (by decide) (by decide) rfl (by decide)
          (by decide) rfl
      · rw [List.mem_singleton.mp later]
        exact ready_root plain.wellFormed (by decide) (by decide) (by decide) rfl (by decide)
          (by decide) rfl
    · decide
  · have named : IsName long := lettersName_isName 254
    have length : Volume.octetLength long = 255 := octetLength_lettersName 255
    have fits : Volume.octetLength long ≤ Volume.nameLimit := by
      rw [length]
      decide
    have aNamed : IsName "a" := by decide
    have aLength : Volume.octetLength "a" = 1 := by decide
    have different : long ≠ "a" := by
      intro same
      rw [same, aLength] at length
      cases length
    generalize long = name at named length fits different
    have short : Volume.octetLength (shaftPath name 15 "a").text < Volume.pathLimit := by
      rw [octetLength_shaftPath, length, aLength]
      decide
    have exceeds : Volume.pathLimit ≤ Volume.octetLength (shaftPath name 15 name).text := by
      rw [octetLength_shaftPath, length]
      decide
    have accepted := shaftPath_acceptable named aNamed fits (by decide) short
    exact ⟨shaft_plain named 15, named, fits, shaft_isFile accepted named, shaft_absent different,
      shaft_stops named fits short exceeds⟩

end MediaNaming.Rename
