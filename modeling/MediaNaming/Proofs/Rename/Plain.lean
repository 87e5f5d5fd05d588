import MediaNaming.Proofs.Rename.Local
import MediaNaming.Proofs.Volume.Plain
/-!
# Turns on a tree of plain files

On such a tree the paths that a turn works with all mean what they spell out: a renamed pair has
moved the file at the place of its path to a free place in the same directory, and nothing else
has changed.
-/

namespace MediaNaming.Rename

variable {cwd : Path} {v w : Volume} {old new : Value} {o : Outcome} {plan : Entries}

/-- The path that a key of a plan names is in its normal form. -/
def IsNormalKey (key : Value) : Prop :=
  ∀ file ∈ key.filePath?, file.IsNormal

instance (key : Value) : Decidable (IsNormalKey key) :=
  inferInstanceAs (Decidable (∀ file ∈ key.filePath?, file.IsNormal))

/-- Reading a text gives the normal form. -/
theorem isNormalKey_text (s : String) : IsNormalKey (.text s) := by
  intro file named
  simp only [Value.filePath?, Option.mem_def] at named
  split at named
  next => cases named
  next =>
    cases named
    exact Path.ofText_isNormal s

/-- What a renamed pair has done on a tree of plain files. -/
structure Moved (cwd : Path) (v : Volume) (old new : Value) (o : Outcome) (w : Volume)
    (file : Path) (name : String) (id : Nat) : Prop where
  source : old.filePath? = some file
  given : new = .text name
  outcome : o = ⟨old, new, some ((Path.absolute cwd file).parent.child name), none, ""⟩
  found : v.find .followed cwd file = .ok (Path.absolute cwd file).place
  present : v.entry? (Path.absolute cwd file).place = some (.file id)
  away : name :: (Path.absolute cwd file).place.tail ≠ (Path.absolute cwd file).place
  absent : v.entry? (name :: (Path.absolute cwd file).place.tail) = none
  view : w.entry? =
    Function.update (Function.update v.entry? (Path.absolute cwd file).place none)
      (name :: (Path.absolute cwd file).place.tail) (some (.file id))
  plain : w.Plain

namespace Done

variable {file : Path} {name : String} {s t : Volume.Spot}

/-- The source of the renaming is the place that the path of the file spells out. -/
theorem sourcePlace (done : Done cwd v old new o w file name s t)
    (noLinks : v.hasNoLinks = true) (working : cwd.IsWorkingDirectory) (normal : file.IsNormal) :
    s.location = (Path.absolute cwd file).place := by
  apply Volume.spot_at_place noLinks (Path.absolute_anchor working file)
  · exact Path.absolute_isNormal working normal
  · exact Path.absolute_no_up
  · exact done.accepted.sourceSpot

/-- The target is the place beside it. -/
theorem targetPlace (done : Done cwd v old new o w file name s t)
    (noLinks : v.hasNoLinks = true) (working : cwd.IsWorkingDirectory) (normal : file.IsNormal) :
    t.location = name :: (Path.absolute cwd file).place.tail := by
  rw [Volume.Spot.location, done.accepted.sameName, done.accepted.sameDir,
    ← done.sourcePlace noLinks working normal]
  rfl

/-- What is at the target belongs to the file that is renamed. -/
theorem target_linked (done : Done cwd v old new o w file name s t)
    (noLinks : v.hasNoLinks = true) {id : Nat} (present : v.entry? s.location = some (.file id))
    {e : Entry} (there : v.entry? t.location = some e) : e = .file id := by
  have noLink : ∀ text, e ≠ .link text := by
    rintro text rfl
    exact Volume.entry?_ne_link noLinks text there
  exact (done.entries_eq present there (by simp) noLink).symm

end Done

theorem PairStep.moved (plain : v.Plain) (working : cwd.IsWorkingDirectory)
    (normal : IsNormalKey old) (step : PairStep (Disk.direct cwd) v old new o w)
    (renamed : o.isRenamed = true) : ∃ file name id, Moved cwd v old new o w file name id := by
  rcases step.done plain.wellFormed renamed with ⟨file, name, s, t, done⟩
  have fileNormal : file.IsNormal := normal file done.source
  rcases Volume.file_at_place plain.noLinks working fileNormal done.isFile with
    ⟨id, found, present⟩
  have sourcePlace := done.sourcePlace plain.noLinks working fileNormal
  have targetPlace := done.targetPlace plain.noLinks working fileNormal
  have away := done.away
  rw [← sourcePlace] at present
  -- nothing is at the target: it would have to be the same file as the source
  have absent : v.entry? t.location = none := by
    cases there : v.entry? t.location with
    | none => rfl
    | some e =>
        rw [done.target_linked plain.noLinks present there] at there
        exact absurd (plain.place_unique present there) away
  have effect := done.accepted.renamed
  refine ⟨file, name, id, ?_⟩
  cases effect with
  | linked same other =>
      rw [absent] at other
      cases other
  | moved _ movable =>
      have view := Volume.entry?_move_file plain.wellFormed movable present absent
      rw [sourcePlace] at present
      rw [targetPlace] at absent
      rw [targetPlace, sourcePlace] at away
      exact {
        source := done.source
        given := done.given
        outcome := done.outcome
        found := found
        present := present
        away := away.symm
        absent := absent
        view := by rw [view, sourcePlace, targetPlace]
        plain := plain.move movable }

/-- Every turn leaves a tree of plain files. -/
theorem PairStep.plain (plain : v.Plain) (working : cwd.IsWorkingDirectory)
    (normal : IsNormalKey old) (step : PairStep (Disk.direct cwd) v old new o w) : w.Plain := by
  cases renamed : o.isRenamed with
  | false =>
      rw [step.volume_of_skipped renamed]
      exact plain
  | true =>
      rcases step.moved plain working normal renamed with ⟨file, name, id, moved⟩
      exact moved.plain

end MediaNaming.Rename
