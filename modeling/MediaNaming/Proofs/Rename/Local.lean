import MediaNaming.Proofs.Rename.Turn
import MediaNaming.Proofs.Volume.Renaming
/-!
# Turns on a file tree

What a turn does when the disk is a volume. Every turn keeps the tree well-formed and the octets
of all files, and a turn that is reported as renamed is one accepted renaming of the volume.
-/

namespace MediaNaming.Rename

open MediaNaming.Path (IsName)
open Volume (Spot Accepted Renamed)

variable {cwd : Path} {v w : Volume} {old new : Value} {o : Outcome} {plan : Entries}

/-- All that is known of a pair that has been renamed. -/
structure Done (cwd : Path) (v : Volume) (old new : Value) (o : Outcome) (w : Volume)
    (file : Path) (name : String) (s t : Spot) : Prop where
  source : old.filePath? = some file
  isFile : v.isFile cwd file = true
  given : new = .text name
  named : IsName name
  outcome : o = ⟨old, new, some ((Path.absolute cwd file).parent.child name), none, ""⟩
  free : isTaken (Disk.direct cwd) v (Path.absolute cwd file)
    ((Path.absolute cwd file).parent.child name) = .ok false
  accepted : Accepted v cwd (Path.absolute cwd file) name w s t

theorem PairStep.done (wf : v.WellFormed) (step : PairStep (Disk.direct cwd) v old new o w)
    (renamed : o.isRenamed = true) : ∃ file name s t, Done cwd v old new o w file name s t := by
  cases step with
  | skipped => cases renamed
  | @renamed file name w source isFile given named different free accepted =>
      rcases Volume.rename?_accepted wf named different accepted with ⟨s, t, met⟩
      exact ⟨file, name, s, t, {
        source := source
        isFile := Except.ok.inj isFile
        given := given
        named := named
        outcome := rfl
        free := free
        accepted := met }⟩

/-- A destination that can be followed to an entry is not taken exactly if it is the source. -/
theorem free_iff_identity {p q : Path} {m : Location} (found : v.find .followed cwd q = .ok m) :
    isTaken (Disk.direct cwd) v p q = .ok false ↔
      ∃ l, v.find .followed cwd p = .ok l ∧ v.identity l = v.identity m := by
  have there : v.exists? cwd q = .ok true := by
    simp [Volume.exists?, Volume.ask, Volume.look, found]
  rw [isTaken_direct, there]
  cases source : v.find .followed cwd p with
  | error r => cases r <;> simp [Volume.sameFile?, source, Except.map]
  | ok l => simp [Volume.sameFile?, source, found, Except.map]

namespace Done

variable {file : Path} {name : String} {s t : Spot}

theorem away (done : Done cwd v old new o w file name s t) : s.location ≠ t.location := by
  intro same
  exact done.accepted.different ((List.cons.inj same).1.trans done.accepted.sameName)

/-- Where neither is a link, source and target are the same file. -/
theorem entries_eq (done : Done cwd v old new o w file name s t) {e f : Entry}
    (atSource : v.entry? s.location = some e) (atTarget : v.entry? t.location = some f)
    (sourceNoLink : ∀ text, e ≠ .link text) (targetNoLink : ∀ text, f ≠ .link text) : e = f := by
  have sourceFound := done.accepted.sourceFound atSource sourceNoLink
  have targetFound := done.accepted.targetFound atTarget targetNoLink
  rcases (free_iff_identity targetFound).mp done.free with ⟨l, found, same⟩
  rw [sourceFound] at found
  cases found
  rcases Volume.identity_eq done.away same with ⟨id, left, right⟩
  rw [atSource] at left
  rw [atTarget] at right
  exact Option.some.inj (left.trans right.symm)

end Done

/-- What a turn keeps. -/
structure Kept (v w : Volume) : Prop where
  wellFormed : w.WellFormed
  contents : w.contents = v.contents

theorem PairStep.kept (wf : v.WellFormed) (step : PairStep (Disk.direct cwd) v old new o w) :
    Kept v w := by
  cases renamed : o.isRenamed with
  | false =>
      rw [step.volume_of_skipped renamed]
      exact ⟨wf, rfl⟩
  | true =>
      rcases step.done wf renamed with ⟨file, name, s, t, done⟩
      exact ⟨done.accepted.renamed.wellFormed wf, done.accepted.renamed.contents⟩

/-- A turn on a well-formed tree. -/
structure Turn.Local (cwd : Path) (t : Turn) : Prop where
  wellFormed : t.before.WellFormed
  step : ∃ old new, PairStep (Disk.direct cwd) t.before old new t.outcome t.after

theorem turns_local (wf : v.WellFormed) {t : Turn}
    (member : t ∈ turns (Disk.direct cwd) v plan) : t.Local cwd := by
  have kept := turns_invariant (P := Volume.WellFormed) wf
    (fun _ wellFormed step => (step.kept wellFormed).wellFormed) member
  rcases pairStep_of_mem_turns member with ⟨old, new, -, step⟩
  exact ⟨kept.1, old, new, step⟩

/-- Applying a plan changes the octets of no file. -/
theorem renameAll_contents (wf : v.WellFormed) (plan : Entries) :
    (renameAll (Disk.direct cwd) v plan).volume.contents = v.contents := by
  fun_induction renameAll (Disk.direct cwd) v plan with
  | case1 => rfl
  | case2 => rfl
  | case3 v old new rest first o w returned more ih =>
      have kept := (renamePair_ok returned).kept wf
      exact (ih kept.wellFormed).trans kept.contents

/-! ## Renaming at the root -/

theorem absolute_root {name : String} (named : IsName name) :
    Path.absolute ⟨.root, []⟩ ⟨.root, [name]⟩ = ⟨.root, [name]⟩ := by
  apply Path.absolute_of_no_up
  · simp
  · simpa using Ne.symm named.2.2.1

theorem isFile_root {name : String} {id : Nat} (named : IsName name)
    (fits : Volume.octetLength name ≤ Volume.nameLimit)
    (there : v.entry? [name] = some (.file id)) :
    v.isFile ⟨.root, []⟩ ⟨.root, [name]⟩ = true :=
  Volume.isFile_of_find (Volume.find_root_file named fits there) there

theorem free_root {p : Path} {name : String} (named : IsName name)
    (fits : Volume.octetLength name ≤ Volume.nameLimit) (absent : v.entry? [name] = none) :
    isTaken (Disk.direct ⟨.root, []⟩) v p ⟨.root, [name]⟩ = .ok false := by
  have missing : v.find .followed ⟨.root, []⟩ ⟨.root, [name]⟩ = .error (.code .missing) :=
    Volume.find_root_absent named fits absent
  have nothing : v.exists? ⟨.root, []⟩ ⟨.root, [name]⟩ = .ok false := by
    simp [Volume.exists?, Volume.ask, Volume.look, missing, Volume.Refusal.isAbsence]
  rw [isTaken_direct, nothing]

/-- The name of another file is taken. -/
theorem taken_root {name other : String} {id otherId : Nat} (named : IsName name)
    (otherNamed : IsName other) (fits : Volume.octetLength name ≤ Volume.nameLimit)
    (otherFits : Volume.octetLength other ≤ Volume.nameLimit)
    (there : v.entry? [name] = some (.file id))
    (otherThere : v.entry? [other] = some (.file otherId))
    (different : id ≠ otherId) :
    isTaken (Disk.direct ⟨.root, []⟩) v ⟨.root, [name]⟩ ⟨.root, [other]⟩ = .ok true := by
  have found := Volume.find_root_file named fits there
  have otherFound := Volume.find_root_file otherNamed otherFits otherThere
  have something : v.exists? ⟨.root, []⟩ ⟨.root, [other]⟩ = .ok true := by
    simp [Volume.exists?, Volume.ask, Volume.look, otherFound]
  rw [isTaken_direct, something]
  simp [Volume.sameFile?, found, otherFound, Volume.identity, there, otherThere, different,
    Except.map]

/-- A pair that gives a file at the root a free name renames it. -/
theorem renamePair_root {name other : String} {id : Nat} (named : IsName name)
    (otherNamed : IsName other) (fits : Volume.octetLength name ≤ Volume.nameLimit)
    (otherFits : Volume.octetLength other ≤ Volume.nameLimit) (different : other ≠ name)
    (there : v.entry? [name] = some (.file id)) (absent : v.entry? [other] = none)
    (moved : v.moveTo ⟨[], name⟩ ⟨[], other⟩ = .ok w) :
    (renamePair (Disk.direct ⟨.root, []⟩) v (.path ⟨.root, [name]⟩) (.text other)).outcome =
      .ok (⟨.path ⟨.root, [name]⟩, .text other, some ⟨.root, [other]⟩, none, ""⟩, w) := by
  have source : (Value.path ⟨.root, [name]⟩).filePath? = some ⟨.root, [name]⟩ := rfl
  have free : isTaken (Disk.direct ⟨.root, []⟩) v ⟨.root, [name]⟩ ⟨.root, [other]⟩ =
      .ok false := free_root otherNamed otherFits absent
  have accepted : v.rename? ⟨.root, []⟩ ⟨.root, [name]⟩ ⟨.root, [other]⟩ = .ok w :=
    Volume.rename?_root named otherNamed fits otherFits moved
  have absolute : (Disk.direct ⟨.root, []⟩).absolute ⟨.root, [name]⟩ = ⟨.root, [name]⟩ :=
    absolute_root named
  have destination : ((Disk.direct ⟨.root, []⟩).absolute ⟨.root, [name]⟩).parent.child other =
      ⟨.root, [other]⟩ := by
    rw [absolute]
    rfl
  rw [← destination]
  apply renamePair_renamed source (congrArg Except.ok (isFile_root named fits there)) otherNamed
  · rw [destination, absolute]
    simpa using different
  · rw [destination, absolute]
    exact free
  · rw [destination, absolute]
    exact accepted

/-! ## A small tree -/

/-- A tree with one photo. -/
def photo : Volume :=
  ⟨[(["a"], .file 0)], [(0, [97])]⟩

/-- A tree with two photos. -/
def twoPhotos : Volume :=
  ⟨[(["a"], .file 0), (["b"], .file 1)], [(0, [97]), (1, [98])]⟩

/-- The two photos under other names. -/
def photosAt (first second : String) : Volume :=
  ⟨[([first], .file 0), ([second], .file 1)], [(0, [97]), (1, [98])]⟩

/-- The limit of names holds everywhere if it holds of the entries. -/
theorem fits_of_entries (listed : ∀ e ∈ v.entries, ∀ part ∈ e.1,
    Volume.octetLength part ≤ Volume.nameLimit) :
    ∀ l e, v.entry? l = some e → ∀ part ∈ l, Volume.octetLength part ≤ Volume.nameLimit := by
  intro l e there
  by_cases root : l = []
  · rw [root]
    simp
  · exact listed (l, e) (Volume.mem_entries_of_present root there)

theorem photo_isFile : photo.isFile ⟨.root, []⟩ ⟨.root, ["a"]⟩ = true :=
  isFile_root (by decide) (by decide) rfl

end MediaNaming.Rename
