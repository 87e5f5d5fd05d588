import MediaNaming.Proofs.Rename.Turn
import MediaNaming.Value.Wording
/-!
# Ordinary failures

The user's wish to stop is a failure that nothing on the way absorbs, and only a collaborator can
bring it up. All other failures are ordinary ones, and a computation whose steps have ordinary
failures has no other ones itself.
-/

namespace MediaNaming

/-- Outcomes that are not the user's wish to stop. -/
def Ordinary {α : Type} (x : Except Failure α) : Prop :=
  ∀ f, x = .error f → f.isInterrupt = false

namespace Ordinary

variable {α β : Type} {x : Except Failure α} {f : Failure}

theorem ok (a : α) : Ordinary (.ok a : Except Failure α) := by
  intro f impossible
  cases impossible

theorem error (ordinary : f.isInterrupt = false) : Ordinary (.error f : Except Failure α) := by
  intro g same
  cases same
  exact ordinary

theorem ne_error (ordinary : Ordinary x) (interrupt : f.isInterrupt = true) : x ≠ .error f := by
  intro failed
  rw [ordinary f failed] at interrupt
  cases interrupt

theorem bind {next : α → Except Failure β} (first : Ordinary x)
    (rest : ∀ a, x = .ok a → Ordinary (next a)) : Ordinary (x >>= next) := by
  cases x with
  | error f => exact error (first f rfl)
  | ok a => exact rest a rfl

theorem map {g : α → β} (first : Ordinary x) : Ordinary (x.map g) := by
  cases x with
  | error f => exact error (first f rfl)
  | ok a => exact ok (g a)

theorem mapM {as : List α} {next : α → Except Failure β}
    (each : ∀ a ∈ as, Ordinary (next a)) : Ordinary (as.mapM next) := by
  induction as with
  | nil => exact ok []
  | cons a as ih =>
      rw [List.mapM_cons]
      apply bind (each a List.mem_cons_self)
      intro b _
      apply bind (ih fun c listed => each c (List.mem_cons_of_mem a listed))
      intro bs _
      exact ok _

theorem bind_traced {t : Log.Traced α} {next : α → Log.Traced β} (first : Ordinary t.outcome)
    (rest : ∀ a, Ordinary (next a).outcome) : Ordinary (t >>= next).outcome := by
  rw [Log.Traced.bind_outcome]
  split
  next f failed => exact error (first f failed)
  next a _ => exact rest a

end Ordinary

theorem Value.orTooLong_ordinary (written : Option String) : Ordinary (orTooLong written) := by
  cases written with
  | none => exact .error rfl
  | some s => exact .ok s

end MediaNaming
