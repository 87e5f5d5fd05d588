import MediaNaming.Proofs.Rename.Report
/-!
# Files that leave their old paths

A pair that is reported as renamed has been handed to the operating system, which does nothing if
both names belong to one file. On a tree without symbolic links the file is at the reported
destination in any case, and it has left its old path exactly if nothing was at the destination
before: what may be there is only another name of the same file.
-/

namespace MediaNaming

variable {cwd : Path} {v w : Volume} {old new : Value} {o : Outcome} {file : Path} {name : String}

namespace Volume

variable {s t : Spot}

/-- Two names of one file are left alone. -/
theorem moveTo_same (accepted : v.moveTo s t = .ok w)
    (same : v.identity s.location = v.identity t.location) : w = v := by
  simp only [moveTo] at accepted
  split at accepted
  next => cases accepted
  next => cases accepted
  next =>
    split at accepted
    next => cases accepted
    next =>
      split at accepted
      next => cases accepted
      split at accepted
      next => cases accepted
      cases accepted
      rfl

end Volume

namespace Rename

variable {s t : Volume.Spot}

/-- A renamed pair of two names of one file has changed nothing. -/
theorem Done.volume_of_same (done : Done cwd v old new o w file name s t)
    (step : PairStep (Disk.direct cwd) v old new o w)
    (same : v.identity s.location = v.identity t.location) : w = v := by
  cases step with
  | skipped => cases done.outcome
  | @renamed other otherName w source isFile given named different free accepted =>
      cases source.symm.trans done.source
      cases given.symm.trans done.given
      obtain ⟨-, -, code⟩ := Volume.rename?_ok accepted
      obtain ⟨-, -, s', t', sourceSpot, targetSpot, moved⟩ := Volume.renameCode_ok code
      have sameSource := sourceSpot.symm.trans done.accepted.sourceSpot
      have sameTarget := targetSpot.symm.trans done.accepted.targetSpot
      cases sameSource
      cases sameTarget
      exact Volume.moveTo_same moved same

/-- After a pair has been reported as renamed, its file is at the destination. The old path has
no entry any more exactly if the destination had none before; otherwise the destination was
another name of the file, and nothing has happened. -/
theorem renamed_departs_iff (wf : v.WellFormed) (noLinks : v.hasNoLinks = true)
    (working : cwd.IsWorkingDirectory) (normal : IsNormalKey old)
    (returned : (renamePair (Disk.direct cwd) v old new).outcome = .ok (o, w))
    (renamed : o.isRenamed = true) :
    ∃ file id destination, old.filePath? = some file ∧ o.destination = some destination ∧
      v.find .followed cwd file = .ok (Path.absolute cwd file).place ∧
      v.entry? (Path.absolute cwd file).place = some (.file id) ∧
      w.entry? destination.place = some (.file id) ∧ w.contents = v.contents ∧
      (w.entry? (Path.absolute cwd file).place = none ↔ v.entry? destination.place = none) ∧
      ∀ e, v.entry? destination.place = some e → e = .file id ∧ w = v := by
  have step := renamePair_ok returned
  obtain ⟨file, name, s, t, done⟩ := step.done wf renamed
  have fileNormal : file.IsNormal := normal file done.source
  obtain ⟨id, found, present⟩ := Volume.file_at_place noLinks working fileNormal done.isFile
  have sourcePlace := done.sourcePlace noLinks working fileNormal
  have targetPlace : t.location = ((Path.absolute cwd file).parent.child name).place := by
    rw [done.targetPlace noLinks working fileNormal, Path.place_sibling]
  have atSource := present
  rw [← sourcePlace] at atSource
  have effect := done.accepted.renamed
  have linked : ∀ e, v.entry? t.location = some e → e = .file id ∧ w = v := by
    intro e there
    have same := done.target_linked noLinks atSource there
    refine ⟨same, done.volume_of_same step ?_⟩
    simp only [Volume.identity, atSource, there, same]
  refine ⟨file, id, _, done.source, by rw [done.outcome], found, present, ?_, effect.contents,
    ?_, ?_⟩
  · rw [← targetPlace, effect.entry?_target wf, atSource]
  · rw [← targetPlace, ← sourcePlace]
    constructor
    · intro gone
      cases there : v.entry? t.location with
      | none => rfl
      | some e =>
          rw [(linked e there).2, atSource] at gone
          cases gone
    · intro absent
      cases effect with
      | linked same other =>
          rw [absent] at other
          cases other
      | moved _ movable => exact Volume.entry?_move_source wf movable []
  · rw [← targetPlace]
    exact linked

theorem renamed_departs_iff_photo :
    renamedPhoto.entry? ["a"] = none ∧ renamedPhoto.entry? ["b"] = some (.file 0) := by
  have wf : photo.WellFormed := by decide
  have working : Path.IsWorkingDirectory ⟨.root, []⟩ := by decide
  have normal : IsNormalKey (.path ⟨.root, ["a"]⟩) := by decide
  obtain ⟨file, id, destination, source, arrived, -, present, there, -, departs, -⟩ :=
    renamed_departs_iff wf rfl working normal photo_renamed rfl
  cases source
  cases arrived
  have absolute : Path.absolute ⟨.root, []⟩ ⟨.root, ["a"]⟩ = ⟨.root, ["a"]⟩ := by decide
  rw [absolute] at present departs
  cases present
  exact ⟨departs.mpr rfl, there⟩

/-- A photo with two names. -/
def twoNames : Volume :=
  ⟨[(["a"], .file 0), (["b"], .file 0)], [(0, [97])]⟩

/-- Renaming the photo to its other name is reported as done, and the old name stays. -/
theorem twoNames_renamed :
    (renamePair (Disk.direct ⟨.root, []⟩) twoNames (.path ⟨.root, ["a"]⟩) (.text "b")).outcome =
        .ok (⟨.path ⟨.root, ["a"]⟩, .text "b", some ⟨.root, ["b"]⟩, none, ""⟩, twoNames) ∧
      twoNames.entry? ["a"] = some (.file 0) := by
  have source : (Value.path ⟨.root, ["a"]⟩).filePath? = some ⟨.root, ["a"]⟩ := rfl
  have isFile : twoNames.isFile ⟨.root, []⟩ ⟨.root, ["a"]⟩ = true :=
    isFile_root (by decide) (by decide) rfl
  have found : twoNames.find .followed ⟨.root, []⟩ ⟨.root, ["a"]⟩ = .ok ["a"] :=
    Volume.find_root_file (by decide) (by decide) rfl
  have otherFound : twoNames.find .followed ⟨.root, []⟩ ⟨.root, ["b"]⟩ = .ok ["b"] :=
    Volume.find_root_file (by decide) (by decide) rfl
  have moved : twoNames.moveTo ⟨[], "a"⟩ ⟨[], "b"⟩ = .ok twoNames := by decide +kernel
  refine ⟨?_, rfl⟩
  apply renamePair_renamed source (congrArg Except.ok isFile) (by decide) (by decide)
  · exact (free_iff_identity otherFound).mpr ⟨["a"], found, rfl⟩
  · exact Volume.rename?_root (by decide) (by decide) (by decide) (by decide) moved

end Rename

end MediaNaming
