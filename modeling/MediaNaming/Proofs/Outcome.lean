import Mathlib.Data.List.Forall2
/-!
# Computations one after another

What it means for a computation that goes on after another one to succeed or to fail.
-/

namespace MediaNaming

variable {ε α β : Type}

theorem ok_bind (a : α) (f : α → Except ε β) : Except.ok a >>= f = f a := rfl

/-- A computation that goes on after another one succeeds if both do. -/
theorem bind_ok_iff {x : Except ε α} {f : α → Except ε β} {b : β} :
    x >>= f = .ok b ↔ ∃ a, x = .ok a ∧ f a = .ok b := by
  cases x with
  | error e =>
      constructor
      · intro impossible
        cases impossible
      · intro continued
        obtain ⟨a, impossible, -⟩ := continued
        cases impossible
  | ok a =>
      constructor
      · intro continued
        exact ⟨a, rfl, continued⟩
      · intro both
        obtain ⟨b, same, continued⟩ := both
        cases same
        exact continued

theorem map_ok_iff {x : Except ε α} {f : α → β} {b : β} :
    x.map f = .ok b ↔ ∃ a, x = .ok a ∧ f a = b := by
  cases x with
  | error e => simp [Except.map]
  | ok a => simp [Except.map]

/-- A computation that goes on after another one fails if one of the two does. -/
theorem bind_error_iff {x : Except ε α} {f : α → Except ε β} {e : ε} :
    x >>= f = .error e ↔ x = .error e ∨ ∃ a, x = .ok a ∧ f a = .error e := by
  cases x with
  | error e' => simp [bind, Except.bind]
  | ok a => simp [bind, Except.bind]

theorem map_error_iff {x : Except ε α} {f : α → β} {e : ε} :
    x.map f = .error e ↔ x = .error e := by
  cases x with
  | error e' => simp [Except.map]
  | ok a => simp [Except.map]

/-- A computation for each item succeeds if all of them do. -/
theorem mapM_ok_iff {f : α → Except ε β} {as : List α} {bs : List β} :
    as.mapM f = .ok bs ↔ List.Forall₂ (fun a b => f a = .ok b) as bs := by
  induction as generalizing bs with
  | nil =>
      rw [List.forall₂_nil_left_iff, List.mapM_nil]
      exact ⟨fun done => (Except.ok.inj done).symm, fun none => congrArg Except.ok none.symm⟩
  | cons a as ih =>
      rw [List.forall₂_cons_left_iff, List.mapM_cons, bind_ok_iff]
      constructor
      · rintro ⟨b, first, rest⟩
        obtain ⟨others, each, same⟩ := bind_ok_iff.mp rest
        exact ⟨b, others, first, ih.mp each, (Except.ok.inj same).symm⟩
      · rintro ⟨b, others, first, each, rfl⟩
        exact ⟨b, first, bind_ok_iff.mpr ⟨others, ih.mpr each, rfl⟩⟩

/-- A computation for each item fails as one of them does. -/
theorem mapM_error {f : α → Except ε β} {as : List α} {e : ε} (failed : as.mapM f = .error e) :
    ∃ a ∈ as, f a = .error e := by
  induction as with
  | nil => cases failed
  | cons a as ih =>
      rw [List.mapM_cons] at failed
      rcases bind_error_iff.mp failed with first | ⟨b, -, rest⟩
      · exact ⟨a, List.mem_cons_self, first⟩
      rcases bind_error_iff.mp rest with later | ⟨others, -, impossible⟩
      · obtain ⟨a', member, same⟩ := ih later
        exact ⟨a', List.mem_cons_of_mem a member, same⟩
      · cases impossible

end MediaNaming
