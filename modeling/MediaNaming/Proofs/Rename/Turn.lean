import MediaNaming.Proofs.Path
import MediaNaming.Rename
import Mathlib.Data.List.Forall2
/-!
# The turns of a run

Applying a plan gives each pair its turn. `Rename.PairStep` states what one turn can do, whatever
the disk: leave the pair out and the tree alone, or pass every check and rename. `Rename.turns`
lists the turns of a run with the trees before and after them, and an invariant that every step
keeps holds at every turn.
-/

namespace MediaNaming

namespace Log.Traced

variable {α β : Type}

theorem bind_outcome (t : Traced α) (f : α → Traced β) :
    (t >>= f).outcome = match t.outcome with
      | .error e => .error e
      | .ok a => (f a).outcome := by
  cases t with
  | mk outcome logs => cases outcome <;> rfl

theorem bind_outcome_ok {t : Traced α} {f : α → Traced β} {b : β}
    (returned : (t >>= f).outcome = .ok b) :
    ∃ a, t.outcome = .ok a ∧ (f a).outcome = .ok b := by
  rw [bind_outcome] at returned
  split at returned
  next => cases returned
  next a first => exact ⟨a, first, returned⟩

theorem ofExcept_bind_outcome {outcome : Except Failure α} {a : α} (f : α → Traced β)
    (first : outcome = .ok a) : (ofExcept outcome >>= f).outcome = (f a).outcome := by
  subst first
  rfl

end Log.Traced

namespace Rename

open MediaNaming.Path (IsName)

variable {disk : Disk} {v w : Volume} {old new : Value} {o : Outcome} {plan : Entries}

/-! ## One turn -/

/-- What the turn of a pair can come to. -/
inductive PairStep (disk : Disk) (v : Volume) (old new : Value) : Outcome → Volume → Prop where
  | skipped (reason : SkipReason) (detail : String) :
      PairStep disk v old new ⟨old, new, none, some reason, detail⟩ v
  | renamed {file : Path} {name : String} {w : Volume}
      (source : old.filePath? = some file)
      (isFile : disk.isFile v file = .ok true)
      (given : new = .text name)
      (named : IsName name)
      (different : (disk.absolute file).parent.child name ≠ disk.absolute file)
      (free : isTaken disk v (disk.absolute file)
        ((disk.absolute file).parent.child name) = .ok false)
      (accepted : disk.rename v (disk.absolute file)
        ((disk.absolute file).parent.child name) = .ok w) :
      PairStep disk v old new
        ⟨old, new, some ((disk.absolute file).parent.child name), none, ""⟩ w

theorem bareName_ok {name : String} (bare : bareName new = .ok name) :
    new = .text name ∧ IsName name := by
  simp only [bareName] at bare
  split at bare
  next s =>
    split at bare
    next => cases bare
    next notEmpty =>
      split at bare
      next => cases bare
      next inside =>
        split at bare
        next => cases bare
        next clean =>
          cases bare
          simp only [Bool.or_eq_true, List.contains_iff_mem, decide_eq_true_eq, not_or] at inside
          exact ⟨rfl, notEmpty, inside.1.2, inside.2, inside.1.1, by simpa using clean⟩
  next => cases bare

theorem skip_ok {reason : SkipReason} {detail : String}
    (returned : (skip v old new reason detail).outcome = .ok (o, w)) :
    PairStep disk v old new o w := by
  rcases Log.Traced.bind_outcome_ok returned with ⟨source, -, rest⟩
  rcases Log.Traced.bind_outcome_ok rest with ⟨target, -, last⟩
  cases last
  exact .skipped reason detail

theorem moveFile_ok {file : Path} {name : String}
    (source : old.filePath? = some file) (isFile : disk.isFile v file = .ok true)
    (named : IsName name)
    (different : (disk.absolute file).parent.child name ≠ disk.absolute file)
    (free : isTaken disk v (disk.absolute file)
      ((disk.absolute file).parent.child name) = .ok false)
    (returned : (moveFile disk v old name (disk.absolute file)
      ((disk.absolute file).parent.child name)).outcome = .ok (o, w)) :
    PairStep disk v old (.text name) o w := by
  simp only [moveFile] at returned
  split at returned
  next =>
    split at returned
    next =>
      split at returned
      next => cases returned
      next => exact skip_ok returned
    next => cases returned
  next accepted =>
    cases returned
    exact .renamed source isFile rfl named different free accepted

/-- A turn that returns leaves the pair out or renames. -/
theorem renamePair_ok (returned : (renamePair disk v old new).outcome = .ok (o, w)) :
    PairStep disk v old new o w := by
  simp only [renamePair] at returned
  split at returned
  next => exact skip_ok returned
  next file source =>
    rcases Log.Traced.bind_outcome_ok returned with ⟨isFile, asked, rest⟩
    split at rest
    next found =>
      subst found
      split at rest
      next => exact skip_ok rest
      next name bare =>
        rcases bareName_ok bare with ⟨given, named⟩
        subst given
        unfold renameFile at rest
        dsimp only at rest
        split at rest
        next => exact skip_ok rest
        next different =>
          rcases Log.Traced.bind_outcome_ok rest with ⟨taken, checked, last⟩
          split at last
          next => exact skip_ok last
          next free =>
            rw [Bool.not_eq_true] at free
            subst free
            exact moveFile_ok source asked named different checked last
    next => exact skip_ok rest

@[simp] theorem direct_isFile (cwd : Path) (v : Volume) (p : Path) :
    (Disk.direct cwd).isFile v p = .ok (v.isFile cwd p) := rfl

@[simp] theorem direct_absolute (cwd p : Path) :
    (Disk.direct cwd).absolute p = Path.absolute cwd p := rfl

/-- Something else stands at a destination if anything does that is not the source. -/
theorem isTaken_direct (cwd p q : Path) : isTaken (Disk.direct cwd) v p q =
    match v.exists? cwd q with
    | .error f => .error f
    | .ok false => .ok false
    | .ok true => (v.sameFile? cwd p q).map (!·) := by
  cases asked : v.exists? cwd q with
  | error f => simp [isTaken, Disk.direct, asked, bind, Except.bind]
  | ok there =>
      cases there with
      | false => simp [isTaken, Disk.direct, asked, bind, Except.bind, pure, Except.pure]
      | true =>
          cases compared : v.sameFile? cwd p q <;>
            simp [isTaken, Disk.direct, asked, compared, bind, Except.bind, pure, Except.pure,
              Except.map]

theorem bareName_of_isName {name : String} (named : IsName name) :
    bareName (.text name) = .ok name := by
  rcases named with ⟨notEmpty, notDot, notUp, inside, clean⟩
  simp [bareName, notEmpty, notDot, notUp, inside, clean]

/-- The turn of a file with an acceptable name depends on what is at the destination. -/
theorem renamePair_checked {file : Path} {name : String}
    (source : old.filePath? = some file) (isFile : disk.isFile v file = .ok true)
    (named : IsName name)
    (different : (disk.absolute file).parent.child name ≠ disk.absolute file) :
    let destination := (disk.absolute file).parent.child name
    (renamePair disk v old (.text name)).outcome =
      match isTaken disk v (disk.absolute file) destination with
      | .error f => .error f
      | .ok true =>
        (skip v old (.text name) .destinationExists
          (destination.text ++ " already exists")).outcome
      | .ok false => (moveFile disk v old name (disk.absolute file) destination).outcome := by
  simp only [renamePair, source]
  rw [Log.Traced.ofExcept_bind_outcome _ isFile]
  simp only [↓reduceIte, bareName_of_isName named, renameFile, different]
  rw [Log.Traced.bind_outcome]
  cases checked : isTaken disk v (disk.absolute file)
      ((disk.absolute file).parent.child name) with
  | error f => simp [Log.Traced.ofExcept]
  | ok taken => cases taken <;> simp [Log.Traced.ofExcept]

/-- A turn that passes every check renames. -/
theorem renamePair_renamed {file : Path} {name : String}
    (source : old.filePath? = some file) (isFile : disk.isFile v file = .ok true)
    (named : IsName name)
    (different : (disk.absolute file).parent.child name ≠ disk.absolute file)
    (free : isTaken disk v (disk.absolute file)
      ((disk.absolute file).parent.child name) = .ok false)
    (accepted : disk.rename v (disk.absolute file)
      ((disk.absolute file).parent.child name) = .ok w) :
    (renamePair disk v old (.text name)).outcome =
      .ok (⟨old, .text name, some ((disk.absolute file).parent.child name), none, ""⟩, w) := by
  rw [renamePair_checked source isFile named different, free]
  simp [moveFile, accepted]

namespace PairStep

theorem oldPath_eq (step : PairStep disk v old new o w) : o.oldPath = old := by
  cases step <;> rfl

theorem newName_eq (step : PairStep disk v old new o w) : o.newName = new := by
  cases step <;> rfl

/-- A pair that is left out leaves the tree alone. -/
theorem volume_of_skipped (step : PairStep disk v old new o w)
    (left : o.isRenamed = false) : w = v := by
  cases step with
  | skipped => rfl
  | renamed => cases left

end PairStep

/-! ## Runs -/

/-- One turn of a run, with the trees before and after it. -/
structure Turn where
  before : Volume
  outcome : Outcome
  after : Volume

/-- The turns of a run, up to a failure. -/
def turns (disk : Disk) (v : Volume) : Entries → List Turn
  | [] => []
  | (old, new) :: rest =>
    match (renamePair disk v old new).outcome with
    | .error _ => []
    | .ok (o, w) => ⟨v, o, w⟩ :: turns disk w rest

/-- Turns of which each starts with the tree that the one before it has left. -/
inductive Chained : Volume → List Turn → Volume → Prop where
  | nil (v : Volume) : Chained v [] v
  | cons {t : Turn} {ts : List Turn} {w : Volume} :
      Chained t.after ts w → Chained t.before (t :: ts) w

theorem renameAll_outcomes (disk : Disk) (v : Volume) (plan : Entries) :
    (renameAll disk v plan).outcomes = (turns disk v plan).map Turn.outcome := by
  fun_induction turns disk v plan with
  | case1 => rfl
  | case2 v old new rest f failed => simp [renameAll, failed]
  | case3 v old new rest o w returned ih => simp [renameAll, returned, ih]

theorem turns_chained (disk : Disk) (v : Volume) (plan : Entries) :
    Chained v (turns disk v plan) (renameAll disk v plan).volume := by
  fun_induction turns disk v plan with
  | case1 v => exact .nil v
  | case2 v old new rest f failed =>
      simp only [renameAll, failed]
      exact .nil v
  | case3 v old new rest o w returned ih =>
      simp only [renameAll, returned]
      exact .cons (t := ⟨v, o, w⟩) ih

theorem execute_volume (disk : Disk) (v : Volume) (plan : Entries) :
    (execute disk v (.mapping plan)).volume = (renameAll disk v plan).volume := by
  simp only [execute, executeEntries]
  split <;> rfl

theorem execute_outcome (disk : Disk) (v : Volume) (plan : Entries) :
    (execute disk v (.mapping plan)).outcome =
      match (renameAll disk v plan).stop with
      | some f => .error f
      | none => .ok (renameAll disk v plan).outcomes := by
  simp only [execute, executeEntries]
  cases (renameAll disk v plan).stop <;> rfl

/-- An outcome that names the pair it is about. -/
def Answers (pair : Value × Value) (o : Outcome) : Prop :=
  o.oldPath = pair.1 ∧ o.newName = pair.2

/-- A run that comes to its end answers each pair, in the order of the plan. -/
theorem renameAll_answers (ended : (renameAll disk v plan).stop = none) :
    List.Forall₂ Answers plan (renameAll disk v plan).outcomes := by
  induction plan generalizing v with
  | nil => exact .nil
  | cons pair rest ih =>
      rcases pair with ⟨old, new⟩
      cases first : (renamePair disk v old new).outcome with
      | error f =>
          simp only [renameAll, first] at ended
          cases ended
      | ok turn =>
          rcases turn with ⟨o, w⟩
          have step := renamePair_ok first
          simp only [renameAll, first] at ended ⊢
          exact .cons ⟨step.oldPath_eq, step.newName_eq⟩ (ih ended)

/-- Each turn is a step of a pair of the plan. -/
theorem pairStep_of_mem_turns {t : Turn} (member : t ∈ turns disk v plan) :
    ∃ old new, (old, new) ∈ plan ∧ PairStep disk t.before old new t.outcome t.after := by
  fun_induction turns disk v plan with
  | case1 => cases member
  | case2 => cases member
  | case3 v old new rest o w returned ih =>
      rcases List.mem_cons.mp member with rfl | later
      · exact ⟨old, new, List.mem_cons_self, renamePair_ok returned⟩
      · rcases ih later with ⟨old, new, given, step⟩
        exact ⟨old, new, List.mem_cons_of_mem _ given, step⟩

/-- What holds at the start and is kept by every turn of a pair of the plan holds before and
after each turn. -/
theorem turns_invariant {P : Volume → Prop} (start : P v)
    (step : ∀ {a b : Volume} {old new : Value} {o : Outcome}, (old, new) ∈ plan → P a →
      PairStep disk a old new o b → P b)
    {t : Turn} (member : t ∈ turns disk v plan) : P t.before ∧ P t.after := by
  fun_induction turns disk v plan with
  | case1 => cases member
  | case2 => cases member
  | case3 v old new rest o w returned ih =>
      have kept := step List.mem_cons_self start (renamePair_ok returned)
      rcases List.mem_cons.mp member with rfl | later
      · exact ⟨start, kept⟩
      · exact ih kept (fun given => step (List.mem_cons_of_mem _ given)) later

/-- What holds at the start and is kept by every turn holds at the end of a run. -/
theorem renameAll_invariant {P : Volume → Prop} (start : P v)
    (step : ∀ {a b : Volume} {old new : Value} {o : Outcome}, (old, new) ∈ plan → P a →
      PairStep disk a old new o b → P b) : P (renameAll disk v plan).volume := by
  fun_induction turns disk v plan with
  | case1 => exact start
  | case2 v old new rest f failed =>
      simp only [renameAll, failed]
      exact start
  | case3 v old new rest o w returned ih =>
      simp only [renameAll, returned]
      apply ih
      · exact step List.mem_cons_self start (renamePair_ok returned)
      · intro a b old new o given
        exact step (List.mem_cons_of_mem _ given)

end Rename

end MediaNaming
