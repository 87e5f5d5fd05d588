import MediaNaming.Proofs.Ordinary
import MediaNaming.Proofs.Plan.Independence
import MediaNaming.Proofs.Plan.Reached
/-!
# Who can interrupt planning

Planning asks two collaborators about a path: whether it names a file, and what its metadata are.
Their failures are absorbed or not, by kind; the user's wish to stop always ends the planning of
all paths, also where it comes in the place of the words of an absorbed failure. Nothing else that
planning does tells of this wish.
-/

namespace MediaNaming

namespace Planner

open Log

variable {pl : Planner} {v : Volume} {scheme : Scheme} {path : Value} {paths : List Value}
  {file : Path} {metadata : Metadata} {f g : Failure} {room : Nat}

/-- A question about a path that a collaborator answers with a failure. -/
inductive Refused (pl : Planner) (v : Volume) (path : Value) (f : Failure) : Prop where
  | isFile {file : Path} (source : path.filePath? = some file)
      (refused : pl.disk.isFile v file = .error f)
  | lookup {file : Path} (source : path.filePath? = some file)
      (isFile : pl.disk.isFile v file = .ok true)
      (refused : (pl.lookup v (pl.disk.absolute file)).outcome = .error f)
  | wordless {file : Path} {g : Failure} (source : path.filePath? = some file)
      (isFile : pl.disk.isFile v file = .ok true)
      (refused : (pl.lookup v (pl.disk.absolute file)).outcome = .error g)
      (absorbed : g.isInterrupt = false) (untold : g.instead? = some f)

/-! ## What fails for reasons of its own -/

theorem skip_ordinary (path : Value) (reason : SkipReason) (detail : String)
    (token : Option String) : Ordinary (skip path reason detail token).outcome := by
  unfold skip
  apply Ordinary.bind_traced (Value.orTooLong_ordinary _)
  intro shown
  exact .ok _

theorem plainText_ordinary (room : Nat) (value : Value) : Ordinary (Tag.plainText room value) := by
  intro f untold
  rcases Value.obstructs_of_obstacle? _ _ (Tag.plainText_error_iff.mp untold) with
    ⟨rfl, -⟩ | ⟨rfl, -⟩
  · rfl
  · rfl

theorem fill_ordinary (room : Nat) (metadata : Metadata) (scheme : Scheme) :
    Ordinary (fill room metadata scheme) := by
  induction scheme with
  | nil => exact .ok _
  | cons token rest ih =>
      have more : ∀ s : String,
          Ordinary (fill room metadata rest >>= fun filled => pure (filled.map (s ++ ·))) :=
        fun s => ih.bind fun _ _ => .ok _
      cases token with
      | literal s => exact more s
      | key name =>
          rw [fill]
          apply Ordinary.bind (plainText_ordinary room _)
          intro s _
          split
          next => exact .ok _
          next => exact more s

theorem nameFrom_ordinary : Ordinary (pl.nameFrom scheme path file metadata).outcome := by
  unfold nameFrom
  apply Ordinary.bind_traced (fill_ordinary pl.room metadata scheme)
  intro filled
  cases filled with
  | error key => exact skip_ordinary _ _ _ _
  | ok s =>
      dsimp only
      split
      next => exact skip_ordinary _ _ _ _
      next =>
        apply Ordinary.bind_traced (Value.orTooLong_ordinary _)
        intro shown
        exact .ok _

/-! ## One path -/

/-- An absorbed failure interrupts only in the place of its words. -/
theorem lookupFailure_interrupt_iff (absorbed : g.isInterrupt = false)
    (interrupt : f.isInterrupt = true) :
    (lookupFailure path g).outcome = .error f ↔ g.instead? = some f := by
  simp only [lookupFailure, absorbed, Bool.false_eq_true, ↓reduceIte]
  cases g.instead? with
  | some h => simp [Traced.fail]
  | none =>
      dsimp only
      split
      next => simpa using (skip_ordinary _ _ _ _).ne_error interrupt
      next => simpa using (skip_ordinary _ _ _ _).ne_error interrupt

theorem lookupFailure_of_interrupt (interrupt : f.isInterrupt = true) :
    (lookupFailure path f).outcome = .error f := by
  rw [lookupFailure, if_pos interrupt]
  rfl

/-- What finding the name of a path comes to, by the answers of the collaborators. -/
theorem resolve_answered (scheme : Scheme) (source : path.filePath? = some file) :
    (pl.resolve v scheme path).outcome =
      match pl.disk.isFile v file with
      | .error g => .error g
      | .ok false => (skip path .fileNotValid "could not access file" none).outcome
      | .ok true =>
        match (pl.lookup v (pl.disk.absolute file)).outcome with
        | .ok metadata => (pl.nameFrom scheme path file metadata).outcome
        | .error g => (lookupFailure path g).outcome := by
  simp only [resolve, source]
  cases asked : pl.disk.isFile v file with
  | error g => rfl
  | ok isFile =>
      rw [Traced.ofExcept_bind_outcome _ rfl]
      cases isFile with
      | false => rfl
      | true =>
          simp only [↓reduceIte]
          cases (pl.lookup v (pl.disk.absolute file)).outcome <;> rfl

/-- Finding the name of a path is interrupted exactly if a collaborator that is asked about it
interrupts. -/
theorem resolve_interrupt_iff (interrupt : f.isInterrupt = true) :
    (pl.resolve v scheme path).outcome = .error f ↔ pl.Refused v path f := by
  constructor
  · intro failed
    cases source : path.filePath? with
    | none =>
        simp only [resolve, source] at failed
        exact absurd failed ((skip_ordinary _ _ _ _).ne_error interrupt)
    | some file =>
        rw [resolve_answered scheme source] at failed
        split at failed
        next g refused =>
          cases failed
          exact .isFile source refused
        next => exact absurd failed ((skip_ordinary _ _ _ _).ne_error interrupt)
        next isFile =>
          split at failed
          next => exact absurd failed (nameFrom_ordinary.ne_error interrupt)
          next g refused =>
            cases wish : g.isInterrupt with
            | false =>
                have untold := (lookupFailure_interrupt_iff wish interrupt).mp failed
                exact .wordless source isFile refused wish untold
            | true =>
                rw [lookupFailure_of_interrupt wish] at failed
                cases failed
                exact .lookup source isFile refused
  · intro refused
    cases refused with
    | isFile source refused => rw [resolve_answered scheme source, refused]
    | lookup source isFile refused =>
        rw [resolve_answered scheme source, isFile, refused]
        exact lookupFailure_of_interrupt interrupt
    | wordless source isFile refused absorbed untold =>
        rw [resolve_answered scheme source, isFile, refused]
        exact (lookupFailure_interrupt_iff absorbed interrupt).mpr untold

end Planner

end MediaNaming
