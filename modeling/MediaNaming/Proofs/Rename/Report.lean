import MediaNaming.Proofs.Rename.Plain
/-!
# What the outcomes of a run tell

On a tree of plain files the outcomes are a complete account of what a run has done:
`execute_described` follows them from the tree before to the tree after, and shows that the pairs
left out could as well have been missing from the plan.
-/

namespace MediaNaming.Rename

variable {disk : Disk} {cwd : Path} {v w : Volume} {plan : Entries}

/-- Outcomes that lead from one view of a tree to another. A pair that is reported as renamed
moves the file at the absolute path of its source to its destination, where nothing is at that
moment; a pair that is left out changes nothing. -/
inductive Describes (cwd : Path) :
    (Location → Option Entry) → List Outcome → (Location → Option Entry) → Prop where
  | nil (view : Location → Option Entry) : Describes cwd view [] view
  | skipped {view final : Location → Option Entry} {o : Outcome} {os : List Outcome}
      (left : o.isRenamed = false) (rest : Describes cwd view os final) :
      Describes cwd view (o :: os) final
  | renamed {view final : Location → Option Entry} {o : Outcome} {os : List Outcome}
      {file destination : Path} {id : Nat} (done : o.isRenamed = true)
      (source : o.oldPath.filePath? = some file) (reported : o.destination = some destination)
      (present : view (Path.absolute cwd file).place = some (.file id))
      (absent : view destination.place = none)
      (rest : Describes cwd
        (Function.update (Function.update view (Path.absolute cwd file).place none)
          destination.place (some (.file id))) os final) :
      Describes cwd view (o :: os) final

/-- The outcomes of a run describe what has become of the tree, also if it was stopped. -/
theorem renameAll_described (plain : v.Plain) (working : cwd.IsWorkingDirectory)
    (normal : ∀ pair ∈ plan, IsNormalKey pair.1) :
    Describes cwd v.entry? (renameAll (Disk.direct cwd) v plan).outcomes
      (renameAll (Disk.direct cwd) v plan).volume.entry? := by
  induction plan generalizing v with
  | nil => exact .nil v.entry?
  | cons pair rest ih =>
      rcases pair with ⟨old, new⟩
      have keyNormal : IsNormalKey old := normal (old, new) List.mem_cons_self
      have restNormal : ∀ pair ∈ rest, IsNormalKey pair.1 := fun pair member =>
        normal pair (List.mem_cons_of_mem _ member)
      cases first : (renamePair (Disk.direct cwd) v old new).outcome with
      | error f =>
          simp only [renameAll, first]
          exact .nil v.entry?
      | ok turn =>
          rcases turn with ⟨o, w⟩
          have step := renamePair_ok first
          have later := ih (step.plain plain working keyNormal) restNormal
          simp only [renameAll, first]
          cases done : o.isRenamed with
          | false =>
              apply Describes.skipped done
              rwa [step.volume_of_skipped done] at later ⊢
          | true =>
              rcases step.moved plain working keyNormal done with ⟨file, name, id, moved⟩
              have source : o.oldPath.filePath? = some file := by
                rw [step.oldPath_eq]
                exact moved.source
              have reported :
                  o.destination = some ((Path.absolute cwd file).parent.child name) := by
                rw [moved.outcome]
              apply Describes.renamed done source reported moved.present
              · rw [Path.place_sibling]
                exact moved.absent
              · rw [Path.place_sibling, ← moved.view]
                exact later

/-- The pairs of a plan that are reported as renamed. -/
def renamedPairs (plan : Entries) (outcomes : List Outcome) : Entries :=
  ((plan.zip outcomes).filter fun answered => answered.2.isRenamed).map Prod.fst

/-- A run without the pairs that are left out does the same. -/
theorem renameAll_renamedPairs (ended : (renameAll disk v plan).stop = none) :
    let again := renameAll disk v (renamedPairs plan (renameAll disk v plan).outcomes)
    again.stop = none ∧ again.volume = (renameAll disk v plan).volume ∧
      again.outcomes = (renameAll disk v plan).outcomes.filter Outcome.isRenamed := by
  induction plan generalizing v with
  | nil => exact ⟨rfl, rfl, rfl⟩
  | cons pair rest ih =>
      rcases pair with ⟨old, new⟩
      cases first : (renamePair disk v old new).outcome with
      | error f =>
          simp only [renameAll, first] at ended
          cases ended
      | ok turn =>
          rcases turn with ⟨o, w⟩
          simp only [renameAll, first] at ended ⊢
          have later := ih ended
          cases done : o.isRenamed with
          | false =>
              have unchanged := (renamePair_ok first).volume_of_skipped done
              subst unchanged
              simpa [renamedPairs, done] using later
          | true =>
              have kept : renamedPairs ((old, new) :: rest)
                  (o :: (renameAll disk w rest).outcomes) =
                    (old, new) :: renamedPairs rest (renameAll disk w rest).outcomes := by
                simp [renamedPairs, done]
              simp only [kept, renameAll, first, List.filter_cons, done, ↓reduceIte]
              exact ⟨later.1, later.2.1, congrArg (o :: ·) later.2.2⟩

/-- The outcomes of a run answer the pairs of its plan in order, describe the tree afterwards, and
are those of the run without the pairs that were left out, which leaves the same tree. -/
theorem execute_described (plain : v.Plain) (working : cwd.IsWorkingDirectory)
    (normal : ∀ pair ∈ plan, IsNormalKey pair.1) {outcomes : List Outcome}
    (returned : (execute (Disk.direct cwd) v (.mapping plan)).outcome = .ok outcomes) :
    let w := (execute (Disk.direct cwd) v (.mapping plan)).volume
    let again := execute (Disk.direct cwd) v (.mapping (renamedPairs plan outcomes))
    List.Forall₂ Answers plan outcomes ∧
      Describes cwd v.entry? outcomes w.entry? ∧ w.contents = v.contents ∧
      again.outcome = .ok (outcomes.filter Outcome.isRenamed) ∧ again.volume = w := by
  dsimp only
  rw [execute_outcome] at returned
  split at returned
  next => cases returned
  next ended =>
    cases returned
    rcases renameAll_renamedPairs ended with ⟨endedAgain, sameVolume, sameOutcomes⟩
    rw [execute_volume, execute_volume, execute_outcome, endedAgain]
    refine ⟨renameAll_answers ended, renameAll_described plain working normal,
      renameAll_contents plain.wellFormed plan, ?_, sameVolume⟩
    rw [sameOutcomes]

/-- The photo under another name. -/
def renamedPhoto : Volume :=
  ⟨[(["b"], .file 0)], [(0, [97])]⟩

theorem photo_renamed :
    (renamePair (Disk.direct ⟨.root, []⟩) photo (.path ⟨.root, ["a"]⟩) (.text "b")).outcome =
      .ok (⟨.path ⟨.root, ["a"]⟩, .text "b", some ⟨.root, ["b"]⟩, none, ""⟩, renamedPhoto) := by
  apply renamePair_root
  · decide
  · decide
  · decide
  · decide
  · decide
  · rfl
  · rfl
  · decide +kernel

/-- Once renamed, the photo is no longer at its old path. -/
theorem renamedPhoto_skipped :
    (renamePair (Disk.direct ⟨.root, []⟩) renamedPhoto (.path ⟨.root, ["a"]⟩)
      (.text "c")).outcome =
      .ok (⟨.path ⟨.root, ["a"]⟩, .text "c", none, some .fileNotValid,
        "could not access source file"⟩, renamedPhoto) := by
  have missing : renamedPhoto.find .followed ⟨.root, []⟩ ⟨.root, ["a"]⟩ =
      .error (.code .missing) :=
    Volume.find_root_absent (by decide) (by decide) rfl
  have gone : renamedPhoto.isFile ⟨.root, []⟩ ⟨.root, ["a"]⟩ = false := by
    simp [Volume.isFile, Volume.look, missing]
  have source : (Value.path ⟨.root, ["a"]⟩).filePath? = some ⟨.root, ["a"]⟩ := rfl
  simp only [renamePair, source]
  rw [Log.Traced.ofExcept_bind_outcome _ (direct_isFile _ _ _), gone]
  rfl

/-- The second of two photos wants the name that the first has got. -/
theorem execute_described_twoPhotos :
    let plan : Entries :=
      [(.path ⟨.root, ["a"]⟩, .text "c"), (.path ⟨.root, ["b"]⟩, .text "c")]
    ∃ outcomes, (execute (Disk.direct ⟨.root, []⟩) twoPhotos (.mapping plan)).outcome =
        .ok outcomes ∧ outcomes.map Outcome.isRenamed = [true, false] ∧
      Describes ⟨.root, []⟩ twoPhotos.entry? outcomes
        (execute (Disk.direct ⟨.root, []⟩) twoPhotos (.mapping plan)).volume.entry? := by
  intro plan
  have plain : twoPhotos.Plain := by decide
  have working : Path.IsWorkingDirectory ⟨.root, []⟩ := by decide
  have normal : ∀ pair ∈ plan, IsNormalKey pair.1 := by decide
  have first : (renamePair (Disk.direct ⟨.root, []⟩) twoPhotos (.path ⟨.root, ["a"]⟩)
      (.text "c")).outcome =
      .ok (⟨.path ⟨.root, ["a"]⟩, .text "c", some ⟨.root, ["c"]⟩, none, ""⟩, photosAt "c" "b") := by
    apply renamePair_root
    · decide
    · decide
    · decide
    · decide
    · decide
    · rfl
    · rfl
    · decide +kernel
  have second : (renamePair (Disk.direct ⟨.root, []⟩) (photosAt "c" "b") (.path ⟨.root, ["b"]⟩)
      (.text "c")).outcome =
      .ok (⟨.path ⟨.root, ["b"]⟩, .text "c", none, some .destinationExists,
        "/c already exists"⟩, photosAt "c" "b") := by
    have isFile : (Disk.direct ⟨.root, []⟩).isFile (photosAt "c" "b") ⟨.root, ["b"]⟩ = .ok true :=
      congrArg Except.ok (isFile_root (by decide) (by decide) rfl)
    have absolute : (Disk.direct ⟨.root, []⟩).absolute ⟨.root, ["b"]⟩ = ⟨.root, ["b"]⟩ :=
      absolute_root (by decide)
    have beside : (⟨.root, ["b"]⟩ : Path).parent.child "c" = ⟨.root, ["c"]⟩ := rfl
    have taken : isTaken (Disk.direct ⟨.root, []⟩) (photosAt "c" "b") ⟨.root, ["b"]⟩
        ⟨.root, ["c"]⟩ = .ok true :=
      taken_root (by decide) (by decide) (by decide) (by decide) rfl rfl (by decide)
    have different : ((Disk.direct ⟨.root, []⟩).absolute ⟨.root, ["b"]⟩).parent.child "c" ≠
        (Disk.direct ⟨.root, []⟩).absolute ⟨.root, ["b"]⟩ := by
      rw [absolute, beside]
      decide
    rw [renamePair_checked rfl isFile (by decide) different, absolute, beside, taken]
    rfl
  have returned : (execute (Disk.direct ⟨.root, []⟩) twoPhotos (.mapping plan)).outcome =
      .ok [⟨.path ⟨.root, ["a"]⟩, .text "c", some ⟨.root, ["c"]⟩, none, ""⟩,
        ⟨.path ⟨.root, ["b"]⟩, .text "c", none, some .destinationExists,
          "/c already exists"⟩] := by
    rw [execute_outcome]
    simp only [plan, renameAll, first, second]
  exact ⟨_, returned, rfl, (execute_described plain working normal returned).2.1⟩

end MediaNaming.Rename
