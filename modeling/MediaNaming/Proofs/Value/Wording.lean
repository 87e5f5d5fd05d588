import MediaNaming.Metadata.Tag
/-!
# Which values have no text

A value is written out item by item, and two things keep it from being written: a whole number over
the limit of digits in one of the places that writing comes to, and more containers inside one
another than there is room for calls. A value is written exactly if it has neither, and what is
met first on the way is the failure.
-/

namespace MediaNaming

namespace Number

/-- Whether a whole number has more digits than the limit allows. -/
def isLong (i : Int) : Bool :=
  Nat.pow 10 digitLimit ≤ i.natAbs

theorem signedText?_eq_none_iff {i : Int} : signedText? i = none ↔ isLong i = true := by
  simp [signedText?, isLong]

theorem isLong_zero : isLong 0 = false := by
  apply decide_eq_false
  -- The power is not to be computed.
  generalize digitLimit = limit
  exact Nat.not_le.mpr (Nat.pow_pos (by decide))

/-- The first number over the limit. -/
def firstLong : Int :=
  .ofNat (Nat.pow 10 digitLimit)

theorem isLong_firstLong : isLong firstLong = true := by
  apply decide_eq_true
  rw [firstLong]
  -- The power is not to be computed.
  generalize digitLimit = limit
  exact Nat.le_refl _

end Number

namespace Value

mutual

/-- Whether writing a value out comes to a whole number over the limit of digits. -/
def holdsLongNumber : Value → Bool
  | int i => Number.isLong i
  | list items => anyHoldsLongNumber items
  | tuple items => anyHoldsLongNumber items
  | mapping entries => entriesHoldLongNumber entries
  | literal v => holdsLongNumber v
  | key v => holdsLongNumber v
  | frame v => holdsLongNumber v
  | wrapper v => holdsLongNumber v
  | _ => false

/-- The same for the items of a container. -/
def anyHoldsLongNumber : List Value → Bool
  | [] => false
  | v :: vs => holdsLongNumber v || anyHoldsLongNumber vs

/-- The same for the keys and the values of a mapping. -/
def entriesHoldLongNumber : List (Value × Value) → Bool
  | [] => false
  | (k, v) :: rest => holdsLongNumber k || holdsLongNumber v || entriesHoldLongNumber rest

end

-- Structural over the value, its items and its entries together, as `shown?` is.
mutual

theorem shown?_eq_none_iff : (v : Value) → (v.shown? = none ↔ v.holdsLongNumber = true)
  | int i => by
      simp only [shown?, holdsLongNumber]
      exact Number.signedText?_eq_none_iff
  | list items => by
      simp only [shown?, holdsLongNumber, Option.map_eq_none_iff]
      exact shownItems?_eq_none_iff items
  | tuple items => by
      simp only [shown?, holdsLongNumber, Option.map_eq_none_iff]
      exact shownItems?_eq_none_iff items
  | mapping entries => by
      simp only [shown?, holdsLongNumber, Option.map_eq_none_iff]
      exact shownEntries?_eq_none_iff entries
  | literal v => by
      simp only [shown?, holdsLongNumber, Option.map_eq_none_iff]
      exact shown?_eq_none_iff v
  | key v => by
      simp only [shown?, holdsLongNumber, Option.map_eq_none_iff]
      exact shown?_eq_none_iff v
  | frame v => by
      simp only [shown?, holdsLongNumber, Option.map_eq_none_iff]
      exact shown?_eq_none_iff v
  | wrapper v => by
      simp only [shown?, holdsLongNumber, Option.map_eq_none_iff]
      exact shown?_eq_none_iff v
  | null | bool _ | float _ | text _ | octets _ | path _ | stream _ _ | moment _ => by
      simp [shown?, holdsLongNumber]

theorem shownItems?_eq_none_iff :
    (items : List Value) → (shownItems? items = none ↔ anyHoldsLongNumber items = true)
  | [] => by simp [shownItems?, anyHoldsLongNumber]
  | v :: vs => by
      have first := shown?_eq_none_iff v
      have others := shownItems?_eq_none_iff vs
      simp only [shownItems?, anyHoldsLongNumber, Bool.or_eq_true, ← first, ← others]
      cases v.shown? <;> cases shownItems? vs <;> simp

theorem shownEntries?_eq_none_iff :
    (entries : List (Value × Value)) →
      (shownEntries? entries = none ↔ entriesHoldLongNumber entries = true)
  | [] => by simp [shownEntries?, entriesHoldLongNumber]
  | (k, v) :: rest => by
      have key := shown?_eq_none_iff k
      have value := shown?_eq_none_iff v
      have others := shownEntries?_eq_none_iff rest
      simp only [shownEntries?, entriesHoldLongNumber, Bool.or_eq_true, ← key, ← value, ← others]
      cases k.shown? <;> cases v.shown? <;> cases shownEntries? rest <;> simp

end

theorem written?_eq_none_iff (v : Value) : v.written? = none ↔ v.holdsLongNumber = true := by
  cases v with
  | text s => simp [written?, holdsLongNumber]
  | path p => simp [written?, holdsLongNumber]
  | moment m => simp [written?, holdsLongNumber]
  | _ => exact shown?_eq_none_iff _

/-! ## Room for calls -/

mutual

/-- How many calls writing a value makes inside the first one. -/
def nesting : Value → Nat
  | list items => itemsNesting items
  | tuple items => itemsNesting items
  | mapping entries => entriesNesting entries
  | literal v => nesting v + (partCalls + 1)
  | key v => nesting v + (partCalls + 1)
  | frame v => nesting v + (partCalls + 1)
  | wrapper v => nesting v + (partCalls + 1)
  | _ => 0

/-- The same for a container with these items. -/
def itemsNesting : List Value → Nat
  | [] => 0
  | v :: vs => max (nesting v + 1) (itemsNesting vs)

/-- The same for a mapping with these keys and values. -/
def entriesNesting : List (Value × Value) → Nat
  | [] => 0
  | (k, v) :: rest => max (max (nesting k + 1) (nesting v + 1)) (entriesNesting rest)

end

-- Structural over the value, its items and its entries together, as `obstacle?` is.
mutual

/-- Nothing keeps a value from being shown exactly if it holds no number over the limit and there
is room for its calls. -/
theorem obstacle?_eq_none_iff : (v : Value) → (room : Nat) →
    (v.obstacle? room = none ↔ v.holdsLongNumber = false ∧ v.nesting < room)
  | _, 0 => by simp [obstacle?]
  | int i, _ + 1 => by
      simp only [obstacle?, holdsLongNumber, nesting, Nat.zero_lt_succ, and_true]
      cases shown : Number.signedText? i with
      | none => simp [Number.signedText?_eq_none_iff.mp shown]
      | some s =>
          have short : Number.isLong i ≠ true := fun long => by
            rw [Number.signedText?_eq_none_iff.mpr long] at shown
            cases shown
          simp [short]
  | list items, room + 1 | tuple items, room + 1 => by
      rw [obstacle?, holdsLongNumber, nesting, itemsObstacle?_eq_none_iff, Nat.lt_succ_iff]
  | mapping entries, room + 1 => by
      rw [obstacle?, holdsLongNumber, nesting, entriesObstacle?_eq_none_iff, Nat.lt_succ_iff]
  | literal v, room + 1 | key v, room + 1 | frame v, room + 1 | wrapper v, room + 1 => by
      rw [obstacle?, holdsLongNumber, nesting, obstacle?_eq_none_iff v]
      simp only [Nat.lt_sub_iff_add_lt, ← Nat.add_assoc, Nat.add_lt_add_iff_right]
  | null, _ + 1 | bool _, _ + 1 | float _, _ + 1 | text _, _ + 1 | octets _, _ + 1 | path _, _ + 1
  | stream _ _, _ + 1 | moment _, _ + 1 => by
      simp [obstacle?, holdsLongNumber, nesting]

theorem itemsObstacle?_eq_none_iff : (items : List Value) → (room : Nat) →
    (itemsObstacle? items room = none ↔
      anyHoldsLongNumber items = false ∧ itemsNesting items ≤ room)
  | [], _ => by simp [itemsObstacle?, anyHoldsLongNumber, itemsNesting]
  | v :: vs, room => by
      rw [itemsObstacle?, Option.or_eq_none_iff, anyHoldsLongNumber, itemsNesting, Nat.max_le,
        Nat.add_one_le_iff, Bool.or_eq_false_iff, and_and_and_comm, obstacle?_eq_none_iff v,
        itemsObstacle?_eq_none_iff vs]

theorem entriesObstacle?_eq_none_iff : (entries : List (Value × Value)) → (room : Nat) →
    (entriesObstacle? entries room = none ↔
      entriesHoldLongNumber entries = false ∧ entriesNesting entries ≤ room)
  | [], _ => by simp [entriesObstacle?, entriesHoldLongNumber, entriesNesting]
  | (k, v) :: rest, room => by
      rw [entriesObstacle?, Option.or_eq_none_iff, Option.or_eq_none_iff, entriesHoldLongNumber,
        entriesNesting, Nat.max_le, Nat.max_le, Nat.add_one_le_iff, Nat.add_one_le_iff,
        Bool.or_eq_false_iff, Bool.or_eq_false_iff, and_and_and_comm,
        and_and_and_comm (a := k.holdsLongNumber = false), obstacle?_eq_none_iff k,
        obstacle?_eq_none_iff v, entriesObstacle?_eq_none_iff rest]

end

/-- What a failure says of a value that cannot be written: that it holds a number over the limit,
or that its calls are too many for the room. -/
def Obstructs (f : Failure) (holdsLong tooMany : Prop) : Prop :=
  (f = .numberTooLong ∧ holdsLong) ∨ (f = .tooDeep ∧ tooMany)

theorem Obstructs.imp {f : Failure} {p q p' q' : Prop} (obstructs : Obstructs f p q)
    (long : p → p') (deep : q → q') : Obstructs f p' q' :=
  Or.imp (And.imp_right long) (And.imp_right deep) obstructs

-- Structural again: what obstructs an item obstructs the container.
mutual

theorem obstructs_of_obstacle? {f : Failure} : (v : Value) → (room : Nat) →
    v.obstacle? room = some f → Obstructs f (v.holdsLongNumber = true) (room ≤ v.nesting)
  | v, 0 => by
      intro met
      rw [obstacle?] at met
      exact Or.inr ⟨(Option.some.inj met).symm, Nat.zero_le _⟩
  | int i, _ + 1 => by
      intro met
      rw [holdsLongNumber]
      rw [obstacle?] at met
      cases shown : Number.signedText? i with
      | none =>
          rw [shown] at met
          exact Or.inl ⟨(Option.some.inj met).symm, Number.signedText?_eq_none_iff.mp shown⟩
      | some s =>
          rw [shown] at met
          cases met
  | list items, room + 1 | tuple items, room + 1 => by
      intro met
      rw [obstacle?] at met
      rw [holdsLongNumber, nesting]
      exact obstructs_of_itemsObstacle? items room met
  | mapping entries, room + 1 => by
      intro met
      rw [obstacle?] at met
      rw [holdsLongNumber, nesting]
      exact obstructs_of_entriesObstacle? entries room met
  | literal v, room + 1 | key v, room + 1 | frame v, room + 1
  | wrapper v, room + 1 => by
      intro met
      rw [obstacle?] at met
      rw [holdsLongNumber, nesting]
      exact (obstructs_of_obstacle? v _ met).imp id (by omega)
  | null, _ + 1 | bool _, _ + 1 | float _, _ + 1 | text _, _ + 1
  | octets _, _ + 1 | path _, _ + 1 | stream _ _, _ + 1 | moment _, _ + 1 => by
      simp [obstacle?]

theorem obstructs_of_itemsObstacle? {f : Failure} : (items : List Value) → (room : Nat) →
    itemsObstacle? items room = some f →
      Obstructs f (anyHoldsLongNumber items = true) (room < itemsNesting items)
  | [], _ => by simp [itemsObstacle?]
  | v :: vs, room => by
      intro met
      rw [itemsObstacle?, Option.or_eq_some_iff] at met
      simp only [anyHoldsLongNumber, Bool.or_eq_true, itemsNesting]
      rcases met with first | ⟨-, later⟩
      · exact (obstructs_of_obstacle? v room first).imp Or.inl (by omega)
      · exact (obstructs_of_itemsObstacle? vs room later).imp Or.inr (by omega)

theorem obstructs_of_entriesObstacle? {f : Failure} : (entries : List (Value × Value)) →
    (room : Nat) → entriesObstacle? entries room = some f →
      Obstructs f (entriesHoldLongNumber entries = true) (room < entriesNesting entries)
  | [], _ => by simp [entriesObstacle?]
  | (k, v) :: rest, room => by
      intro met
      rw [entriesObstacle?, Option.or_eq_some_iff, Option.or_eq_some_iff] at met
      simp only [entriesHoldLongNumber, Bool.or_eq_true, entriesNesting]
      rcases met with (key | ⟨-, value⟩) | ⟨-, later⟩
      · exact (obstructs_of_obstacle? k room key).imp (fun long => Or.inl (Or.inl long))
          (by omega)
      · exact (obstructs_of_obstacle? v room value).imp (fun long => Or.inl (Or.inr long))
          (by omega)
      · exact (obstructs_of_entriesObstacle? rest room later).imp Or.inr (by omega)

end

/-- A value cannot be written exactly if something keeps it from being shown. -/
theorem wordingWithin_error_iff {v : Value} {room : Nat} {f : Failure} :
    v.wordingWithin room = .error f ↔ v.obstacle? (room + 1) = some f := by
  rw [wordingWithin]
  cases met : v.obstacle? (room + 1) with
  | some g => simp
  | none =>
      have short := ((obstacle?_eq_none_iff v (room + 1)).mp met).1
      have written : v.written? ≠ none := fun untold => by
        rw [written?_eq_none_iff, short] at untold
        cases untold
      obtain ⟨s, written⟩ := Option.ne_none_iff_exists'.mp written
      simp [wording, written, orTooLong]

/-- A number of one digit too many. -/
theorem obstacle?_firstLong {room : Nat} :
    (int Number.firstLong).obstacle? (room + 1) = some .numberTooLong := by
  rw [obstacle?, Number.signedText?_eq_none_iff.mpr Number.isLong_firstLong]
  rfl

/-- A value with many lists inside one another. -/
def nested : Nat → Value
  | 0 => .text "x"
  | n + 1 => .list [nested n]

theorem nesting_nested (n : Nat) : (nested n).nesting = n := by
  induction n with
  | zero => simp [nested, nesting]
  | succ n ih => simp [nested, nesting, itemsNesting, ih]

theorem holdsLongNumber_nested (n : Nat) : (nested n).holdsLongNumber = false := by
  induction n with
  | zero => simp [nested, holdsLongNumber]
  | succ n ih => simp [nested, holdsLongNumber, anyHoldsLongNumber, ih]

/-- One list more than there is room for. -/
theorem obstacle?_nested (room : Nat) :
    (nested (room + 1)).obstacle? (room + 1) = some .tooDeep := by
  cases met : (nested (room + 1)).obstacle? (room + 1) with
  | none =>
      have fits := ((obstacle?_eq_none_iff _ _).mp met).2
      rw [nesting_nested] at fits
      exact absurd fits (Nat.lt_irrefl _)
  | some f =>
      rcases obstructs_of_obstacle? _ _ met with ⟨-, long⟩ | ⟨rfl, -⟩
      · rw [holdsLongNumber_nested] at long
        cases long
      · rfl

end Value

/-- Null and octets always have a text; all else is written out. -/
theorem Tag.plainText_error_iff {v : Value} {room : Nat} {f : Failure} :
    plainText room v = .error f ↔ v.obstacle? (room + 1) = some f := by
  cases v with
  | null => simp [plainText, Value.obstacle?]
  | octets bs => simp [plainText, Value.obstacle?]
  | _ => simp only [plainText, Value.wordingWithin_error_iff]

end MediaNaming
