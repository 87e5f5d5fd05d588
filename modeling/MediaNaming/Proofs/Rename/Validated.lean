import MediaNaming.Proofs.Plan.Names
import MediaNaming.Proofs.Rename.Loss
import MediaNaming.Proofs.Volume.Route
/-!
# The file that has been looked at

Whether a path names a file is asked of the path as it is given, and the operating system answers.
The metadata of the file is looked up, and the file renamed, through the absolute form of the
path, which is made from its text alone. `acts_on_validated` says when both mean the same entry:
whenever every `..` of the path goes back, and for the renaming exactly if the paths without their
last names lead to one directory.
-/

namespace MediaNaming

open Volume (Leads)

variable {v w : Volume} {cwd file : Path} {l : Location}

namespace Volume

/-- A file is looked up by the last name of its path, in the directory to which the others
lead. -/
theorem follow_parent (wf : v.WellFormed) (inside : v.entry? cwd.place = some .directory)
    (isFile : v.isFile cwd file = true) : ∃ dir, v.follow cwd file.parent = .ok dir ∧
      v.entry? dir = some .directory ∧ file = file.parent.child file.name ∧ file.name ≠ ".." := by
  obtain ⟨l, id, found, there⟩ := find_of_isFile isFile
  obtain ⟨parts, notUp⟩ := last_of_file wf inside found there
  obtain ⟨used, bound, leads⟩ := leads_of_follow (walk_of_find found) there
  rw [parts] at leads
  obtain ⟨dir, first, second, toParent, fromParent, total⟩ := Leads.split leads
  refine ⟨dir, toParent.follow (by omega), ?_, parts, notUp⟩
  generalize file.name = name at fromParent
  cases fromParent with
  | stay directory | up directory | down directory | through directory => exact directory

/-- The spot of a path that ends in a name. -/
theorem spot?_child {dir : Location} {p : Path} {name : String} (notUp : name ≠ "..")
    (followed : v.follow cwd p = .ok dir) (directory : v.entry? dir = some .directory) :
    v.spot? cwd (p.child name) = .ok (some ⟨dir, name⟩) := by
  have walked : v.walk .followed linkLimit (start cwd (p.child name))
      (p.child name).parts.dropLast = .ok dir := by
    rw [Path.child, List.dropLast_concat]
    exact followed
  have last : (p.child name).parts.getLast? = some name := List.getLast?_concat
  simp only [spot?, walked, directory, last, if_neg notUp]

end Volume

namespace Rename

open Volume (Renamed)

theorem entryOf?_child {dir : Location} {p : Path} {name : String} (notUp : name ≠ "..")
    (followed : v.follow cwd p = .ok dir) (directory : v.entry? dir = some .directory) :
    entryOf? v cwd (p.child name) = some (name :: dir) := by
  rw [entryOf?, Volume.spot?_child notUp followed directory]
  rfl

/-- Two paths that end in one name stand for one entry exactly if what is in front of the name
leads to one directory. -/
theorem entryOf?_eq_iff {dir : Location} {p q : Path} {name : String} (notUp : name ≠ "..")
    (followed : v.follow cwd p = .ok dir) (directory : v.entry? dir = some .directory) :
    entryOf? v cwd (q.child name) = entryOf? v cwd (p.child name) ↔
      v.follow cwd q = v.follow cwd p := by
  rw [entryOf?_child notUp followed directory, followed]
  constructor
  · intro same
    simp only [entryOf?] at same
    split at same
    next s spot =>
      obtain ⟨walked, -, -⟩ := Volume.spot?_ok spot
      rw [Path.child, List.dropLast_concat] at walked
      cases same
      exact walked
    next => cases same
  · intro same
    exact entryOf?_child notUp same directory

/-- Whether a path names a file is asked of the path, and everything else happens to its absolute
form. Both lead to the same entries all along the path exactly if every `..` goes back. The file
whose metadata is read is then the one that has been looked at, and so is the entry that is
renamed: the one exactly if both paths lead to one location, the other exactly if they do without
their last names. -/
theorem acts_on_validated (wf : v.WellFormed) (working : cwd.IsWorkingDirectory)
    (inside : v.entry? cwd.place = some .directory)
    (fits : ∀ part ∈ cwd.parts, Volume.octetLength part ≤ Volume.nameLimit)
    (isFile : v.isFile cwd file = true) :
    let named := Path.absolute cwd file
    ((∀ count, v.follow cwd (Path.absolute cwd (file.upTo count)) =
        v.follow cwd (file.upTo count)) ↔ v.GoesBack cwd file) ∧
    (v.GoesBack cwd file → v.follow cwd named = v.follow cwd file ∧
      v.follow cwd named.parent = v.follow cwd file.parent) ∧
    (∀ l, v.find .followed cwd named = .ok l →
      (v.find .followed cwd file = .ok l ↔ v.follow cwd named = v.follow cwd file)) ∧
    (entryOf? v cwd named = entryOf? v cwd file ↔
      v.follow cwd named.parent = v.follow cwd file.parent) ∧
    (∀ (pl : Planner) scheme key name, pl.disk = Disk.direct cwd → key.filePath? = some file →
      (pl.resolve v scheme key).outcome = .ok (.named key name) →
        ∃ metadata, (pl.lookup v named).outcome = .ok metadata ∧
          pl.Resolved v scheme key file metadata name) ∧
    (∀ old new o w, old.filePath? = some file →
      (renamePair (Disk.direct cwd) v old new).outcome = .ok (o, w) → o.isRenamed = true →
        ∃ source target, entryOf? v cwd named = some source ∧
          o.destination.bind (entryOf? v cwd) = some target ∧ Renamed v source target w) := by
  intro named
  obtain ⟨dir, followed, directory, parts, notUp⟩ := Volume.follow_parent wf inside isFile
  obtain ⟨l, id, found, there⟩ := Volume.find_of_isFile isFile
  have whole : v.follow cwd file = .ok l := Volume.walk_of_find found
  have absolute : named = (Path.absolute cwd file.parent).child file.name := by
    rw [← Path.absolute_child notUp, ← parts]
  have above : named.parent = Path.absolute cwd file.parent := by
    rw [absolute, Path.parent_child]
  have prefixes := Volume.follow_absolute_iff working wf inside fits whole there
  refine ⟨prefixes, ?_, ?_, ?_, ?_, ?_⟩
  · intro back
    have same := prefixes.mpr back
    constructor
    · have all := same file.parts.length
      rwa [Path.upTo_length] at all
    · rw [above, ← Path.upTo_length_sub_one file]
      exact same (file.parts.length - 1)
  · intro m foundNamed
    have reached : v.follow cwd named = .ok m := Volume.walk_of_find foundNamed
    rw [found, whole, reached, Except.ok.injEq, Except.ok.injEq, eq_comm]
  · rw [above, absolute]
    nth_rewrite 3 [parts]
    exact entryOf?_eq_iff notUp followed directory
  · intro pl scheme key name direct source resolved
    obtain ⟨-, other, metadata, how⟩ := Planner.resolve_ok resolved
    cases source.symm.trans how.source
    refine ⟨metadata, ?_, how⟩
    have looked := how.found
    rwa [direct] at looked
  · intro old new o w source returned renamed
    obtain ⟨other, name, s, t, done⟩ := (renamePair_ok returned).done wf renamed
    cases source.symm.trans done.source
    refine ⟨s.location, t.location, ?_, ?_, done.accepted.renamed⟩
    · rw [entryOf?, done.accepted.sourceSpot]
    · rw [done.outcome, Option.bind_some, entryOf?, done.accepted.targetSpot]

/-- Two files of one name, and a link beside the outer one into a directory beside the inner
one. -/
def sideways : Volume :=
  ⟨[(["d"], .directory), (["e", "d"], .directory), (["l"], .link "d/e"), (["a"], .file 0),
    (["a", "d"], .file 1)], [(0, [97]), (1, [98])]⟩

/-- Going up behind the link leads to the directory of the inner file. -/
theorem sideways_up : sideways.Leads [] ["l", ".."] 1 ["d"] := by
  have target : Volume.targetNames "d/e" = ["d", "e"] := by decide
  have beside : Volume.targetStart [] "d/e" = [] := by decide
  refine .through (Volume.entry?_root _) (by decide) (by decide) rfl ?_
  rw [target, beside]
  refine .down (Volume.entry?_root _) (by decide) (by decide) rfl (by simp) ?_
  refine .down rfl (by decide) (by decide) rfl (by simp) ?_
  exact .up rfl (.stop rfl)

theorem sideways_isFile : sideways.isFile ⟨.root, []⟩ ⟨.root, ["l", "..", "a"]⟩ = true := by
  have inner : sideways.Leads ["d"] ["a"] 0 ["a", "d"] :=
    .down rfl (by decide) (by decide) rfl (by simp) (.stop rfl)
  have walked : sideways.walk .followed Volume.linkLimit [] ["l", "..", "a"] = .ok ["a", "d"] :=
    (sideways_up.append inner).walk (by decide)
  exact Volume.isFile_of_find (Volume.find_of_walk (by decide) (by decide) walked rfl) rfl

theorem sideways_inner :
    entryOf? sideways ⟨.root, []⟩ ⟨.root, ["l", "..", "a"]⟩ = some ["a", "d"] :=
  entryOf?_child (p := ⟨.root, ["l", ".."]⟩) (by decide) (sideways_up.walk (by decide)) rfl

theorem acts_on_validated_sideways :
    sideways.isFile ⟨.root, []⟩ ⟨.root, ["l", "..", "a"]⟩ = true ∧
      ¬sideways.GoesBack ⟨.root, []⟩ ⟨.root, ["l", "..", "a"]⟩ := by
  refine ⟨sideways_isFile, ?_⟩
  intro back
  have wf : sideways.WellFormed := by decide
  obtain ⟨-, agree, -, entries, -⟩ :=
    acts_on_validated wf (by decide) rfl (by decide) sideways_isFile
  have same := entries.mpr (agree back).2
  have outer : entryOf? sideways ⟨.root, []⟩ ⟨.root, ["a"]⟩ = some ["a"] :=
    entryOf?_child (p := ⟨.root, []⟩) (by decide)
      (Leads.follow (.stop (Volume.entry?_root _)) (Nat.zero_le _)) (Volume.entry?_root _)
  have absolute : Path.absolute ⟨.root, []⟩ ⟨.root, ["l", "..", "a"]⟩ = ⟨.root, ["a"]⟩ := by
    decide
  rw [absolute, outer, sideways_inner] at same
  cases same

/-- The inner file is looked at, and the outer one is renamed. -/
theorem sideways_moved :
    let path := Value.path ⟨.root, ["l", "..", "a"]⟩
    sideways.isFile ⟨.root, []⟩ ⟨.root, ["l", "..", "a"]⟩ = true ∧
      entryOf? sideways ⟨.root, []⟩ ⟨.root, ["l", "..", "a"]⟩ = some ["a", "d"] ∧
      ∃ w, (renamePair (Disk.direct ⟨.root, []⟩) sideways path (.text "b")).outcome =
          .ok (⟨path, .text "b", some ⟨.root, ["b"]⟩, none, ""⟩, w) ∧
        w.entry? ["a", "d"] = sideways.entry? ["a", "d"] ∧
        w.entry? ["b"] = sideways.entry? ["a"] ∧ w.entry? ["a"] = none := by
  intro path
  refine ⟨sideways_isFile, sideways_inner, sideways.move ["a"] ["b"], ?_, ?_⟩
  · have source : path.filePath? = some ⟨.root, ["l", "..", "a"]⟩ := rfl
    have moved : sideways.moveTo ⟨[], "a"⟩ ⟨[], "b"⟩ = .ok (sideways.move ["a"] ["b"]) := by
      decide +kernel
    apply renamePair_renamed source (congrArg Except.ok sideways_isFile) (by decide) (by decide)
    · exact free_root (by decide) (by decide) rfl
    · exact Volume.rename?_root (by decide) (by decide) (by decide) (by decide) moved
  · decide +kernel

end Rename

end MediaNaming
