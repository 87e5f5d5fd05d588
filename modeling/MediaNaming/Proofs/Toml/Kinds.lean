import MediaNaming.Proofs.Outcome
import MediaNaming.Toml.Document
/-!
# What a document can hold

A document assigns texts, whole numbers, floating-point numbers, truth values, dates and times, and
arrays and tables of these. The keys of a table are texts. Nothing else comes out of reading one,
however its lines go on with what earlier lines have begun.
-/

namespace MediaNaming.Toml

/-- The values of a document. -/
inductive Held : Value → Prop where
  | bool (b : Bool) : Held (.bool b)
  | int (i : Int) : Held (.int i)
  | float (x : Number.Binary64) : Held (.float x)
  | text (s : String) : Held (.text s)
  | moment (m : Moment) : Held (.moment m)
  | list {items : List Value} (each : ∀ v ∈ items, Held v) : Held (.list items)
  | mapping {entries : Entries} (keys : ∀ e ∈ entries, ∃ s, e.1 = .text s)
    (values : ∀ e ∈ entries, Held e.2) : Held (.mapping entries)

/-- The entries of a table: texts as keys, and values of a document. -/
structure IsTable (entries : Entries) : Prop where
  keys : ∀ e ∈ entries, ∃ s, e.1 = .text s
  values : ∀ e ∈ entries, Held e.2

theorem IsTable.held {entries : Entries} (table : IsTable entries) : Held (.mapping entries) :=
  .mapping table.keys table.values

theorem Held.table {entries : Entries} (held : Held (.mapping entries)) : IsTable entries := by
  cases held with
  | mapping keys values => exact ⟨keys, values⟩

theorem Held.items {items : List Value} (held : Held (.list items)) : ∀ v ∈ items, Held v := by
  cases held with
  | list each => exact each

variable {table table' : Entries} {name : String} {v : Value} {key : Key} {lists : Bool}
  {change : Entries → Option Entries} {cs rest : List Char} {d d' : Document} {fuel : Nat}

/-! ## Tables -/

theorem isTable_nil : IsTable [] where
  keys := List.forall_mem_nil _
  values := List.forall_mem_nil _

theorem IsTable.get? (isTable : IsTable table) {k : Value} (found : table.get? k = some v) :
    Held v := by
  rw [Entries.get?, Option.map_eq_some_iff] at found
  obtain ⟨e, first, rfl⟩ := found
  exact isTable.values e (List.mem_of_find?_eq_some first)

theorem IsTable.concat (isTable : IsTable table) (held : Held v) :
    IsTable (table ++ [(.text name, v)]) := by
  constructor
  · rw [List.forall_mem_append, List.forall_mem_singleton]
    exact ⟨isTable.keys, name, rfl⟩
  · rw [List.forall_mem_append, List.forall_mem_singleton]
    exact ⟨isTable.values, held⟩

theorem IsTable.insert (isTable : IsTable table) (held : Held v) :
    IsTable (table.insert (.text name) v) := by
  rw [Entries.insert]
  split
  · constructor
    · rw [List.forall_mem_map]
      intro e member
      split
      · exact isTable.keys e member
      · exact isTable.keys e member
    · rw [List.forall_mem_map]
      intro e member
      split
      · exact held
      · exact isTable.values e member
  · exact isTable.concat held

/-- A change of tables that gives tables again. -/
def Preserves (change : Entries → Option Entries) : Prop :=
  ∀ table table', IsTable table → change table = some table' → IsTable table'

theorem addEntry_preserves (held : Held v) (name : String) : Preserves (addEntry name v) := by
  intro table table' isTable added
  rw [addEntry] at added
  split at added
  · cases added
  · cases added
    exact isTable.concat held

theorem addTable_preserves (name : String) : Preserves (addTable name) := by
  have empty : ∀ v ∈ [Value.mapping []], Held v := by
    rw [List.forall_mem_singleton]
    exact isTable_nil.held
  intro table table' isTable added
  rw [addTable] at added
  split at added
  · cases added
    exact isTable.concat (.list empty)
  · next items found =>
    cases added
    apply isTable.insert
    apply Held.list
    rw [List.forall_mem_append]
    exact ⟨(isTable.get? found).items, empty⟩
  · cases added

/-- A change deep inside a table gives a table again if the change itself does. -/
theorem changeAt_preserves (preserves : Preserves change) (lists : Bool) (key : Key) :
    Preserves (changeAt lists key change) := by
  induction key with
  | nil =>
      intro table table' isTable changed
      exact preserves table table' isTable changed
  | cons name rest ih =>
      intro table table' isTable changed
      rw [changeAt] at changed
      split at changed
      next =>
        obtain ⟨sub, inside, rfl⟩ := Option.map_eq_some_iff.mp changed
        exact isTable.insert (ih [] sub isTable_nil inside).held
      next sub found =>
        obtain ⟨sub', inside, rfl⟩ := Option.map_eq_some_iff.mp changed
        exact isTable.insert (ih sub sub' (isTable.get? found).table inside).held
      next items found =>
        have each := (isTable.get? found).items
        split at changed
        next sub last =>
          obtain ⟨sub', inside, rfl⟩ := Option.map_eq_some_iff.mp changed
          have table := (each _ (List.mem_of_getLast? last)).table
          apply isTable.insert
          apply Held.list
          rw [List.forall_mem_append, List.forall_mem_singleton]
          exact ⟨fun v front => each v (List.dropLast_subset items front),
            (ih sub sub' table inside).held⟩
        next => cases changed
      next => cases changed

theorem orMalformed_eq_ok_iff {α : Type} {o : Option α} {a : α} :
    orMalformed o = .ok a ↔ o = some a := by
  cases o with
  | none => simp [orMalformed]
  | some b => simp [orMalformed]

/-! ## Values -/

theorem readMoment?_held {r : Result Value} (read : readMoment? cs = some r)
    (given : r = .ok (v, rest)) : Held v := by
  rw [readMoment?] at read
  split at read
  next date more _ =>
    rw [Option.some_inj] at read
    rw [← read] at given
    split at given
    next =>
      split at given
      · cases given
        exact .moment _
      · cases given
        exact .moment _
    next => cases given
  next =>
    obtain ⟨⟨clock, more⟩, -, same⟩ := Option.map_eq_some_iff.mp read
    rw [← same] at given
    cases given
    exact .moment _

theorem decimalValue_held {mark whole floating : List Char}
    (read : decimalValue mark whole floating = .ok v) : Held v := by
  rw [decimalValue] at read
  split at read
  next =>
    split at read
    next => cases read
    next =>
      cases read
      exact .int _
  next =>
    split at read
    next =>
      cases read
      exact .float _
    next => cases read

theorem decimalNumber_held (read : decimalNumber cs = .ok (v, rest)) : Held v := by
  unfold decimalNumber at read
  split at read
  next mark body _ =>
    split at read
    next whole more _ =>
      obtain ⟨number, value, same⟩ := map_ok_iff.mp read
      cases same
      exact decimalValue_held value
    next =>
      split at read
      next =>
        cases read
        exact .float _
      next =>
        cases read
        exact .float _
      next => cases read

theorem readScalar_held (read : readScalar cs = .ok (v, rest)) : Held v := by
  rw [readScalar] at read
  split at read
  next r found => exact readMoment?_held found read
  next =>
    split at read
    next =>
      cases read
      exact .int _
    next => exact decimalNumber_held read

theorem word?_held (read : word? cs = some (v, rest)) : Held v := by
  rw [word?.eq_def] at read
  split at read
  next =>
    cases read
    exact .bool true
  next =>
    cases read
    exact .bool false
  next => cases read

/-- A table written in one piece is still one with another entry. -/
theorem InlineTable.add_isTable {t t' : InlineTable} (added : t.add key v = .ok t')
    (held : Held v) (isTable : IsTable t.entries) : IsTable t'.entries := by
  rw [InlineTable.add] at added
  split at added
  next => cases added
  next =>
    obtain ⟨entries, changed, same⟩ := bind_ok_iff.mp added
    cases same
    exact changeAt_preserves (addEntry_preserves held _) _ _ _ _ isTable
      (orMalformed_eq_ok_iff.mp changed)

/-- The readers of values, items and entries, whatever the bound on their depth: they give values of
a document. -/
structure ReadsHeld (fuel : Nat) : Prop where
  value : ∀ cs v rest, readValue fuel cs = .ok (v, rest) → Held v
  items : ∀ cs items rest, readItems fuel cs = .ok (items, rest) → ∀ v ∈ items, Held v
  entries : ∀ t cs t' rest, readEntries fuel t cs = .ok (t', rest) → IsTable t.entries →
    IsTable t'.entries

theorem readValue_succ (below : ReadsHeld fuel) (read : readValue (fuel + 1) cs = .ok (v, rest)) :
    Held v := by
  simp only [readValue.eq_def] at read
  split at read
  next r _ =>
    obtain ⟨p, -, same⟩ := map_ok_iff.mp read
    cases same
    exact .text _
  next =>
    split at read
    next r found =>
      cases read
      exact word?_held found
    next =>
      split at read
      next body =>
        obtain ⟨more, -, read⟩ := bind_ok_iff.mp read
        split at read
        next =>
          cases read
          exact .list (List.forall_mem_nil _)
        next =>
          obtain ⟨⟨items, left⟩, found, same⟩ := bind_ok_iff.mp read
          cases same
          exact .list (below.items _ _ _ found)
      next body =>
        split at read
        next =>
          cases read
          exact isTable_nil.held
        next =>
          obtain ⟨⟨t, left⟩, found, same⟩ := bind_ok_iff.mp read
          cases same
          exact (below.entries _ _ _ _ found isTable_nil).held
      next => exact readScalar_held read

theorem readItems_succ (below : ReadsHeld fuel) {items : List Value}
    (read : readItems (fuel + 1) cs = .ok (items, rest)) : ∀ v ∈ items, Held v := by
  rw [readItems] at read
  obtain ⟨⟨v, left⟩, first, read⟩ := bind_ok_iff.mp read
  have held := below.value _ _ _ first
  obtain ⟨left, -, read⟩ := bind_ok_iff.mp read
  split at read
  next =>
    cases read
    exact List.forall_mem_singleton.mpr held
  next =>
    obtain ⟨left, -, read⟩ := bind_ok_iff.mp read
    split at read
    next =>
      cases read
      exact List.forall_mem_singleton.mpr held
    next =>
      obtain ⟨⟨others, left⟩, found, same⟩ := bind_ok_iff.mp read
      cases same
      exact List.forall_mem_cons.mpr ⟨held, below.items _ _ _ found⟩
  next => cases read

theorem readEntries_succ (below : ReadsHeld fuel) {t t' : InlineTable}
    (read : readEntries (fuel + 1) t cs = .ok (t', rest)) (isTable : IsTable t.entries) :
    IsTable t'.entries := by
  rw [readEntries] at read
  obtain ⟨⟨key, left⟩, -, read⟩ := bind_ok_iff.mp read
  dsimp only at read
  split at read
  next =>
    obtain ⟨⟨v, left⟩, value, read⟩ := bind_ok_iff.mp read
    obtain ⟨t'', added, read⟩ := bind_ok_iff.mp read
    have isTable := InlineTable.add_isTable added (below.value _ _ _ value) isTable
    split at read
    next =>
      cases read
      exact isTable
    next => exact below.entries _ _ _ _ read isTable
    next => cases read
  next => cases read

theorem readsHeld (fuel : Nat) : ReadsHeld fuel := by
  -- Each reader calls the others with less fuel, so the three go together.
  induction fuel with
  | zero =>
      constructor
      case value => exact fun cs v rest read => by simp [readValue] at read
      case items => exact fun cs items rest read => by simp [readItems] at read
      case entries => exact fun t cs t' rest read => by simp [readEntries] at read
  | succ fuel below =>
      exact ⟨fun _ _ _ => readValue_succ below, fun _ _ _ => readItems_succ below,
        fun _ _ _ _ => readEntries_succ below⟩

/-! ## Documents -/

namespace Document

theorem assign_isTable (assigned : d.assign key v = .ok d') (held : Held v)
    (isTable : IsTable d.table) : IsTable d'.table := by
  simp only [assign] at assigned
  split at assigned
  next => cases assigned
  next =>
    split at assigned
    next => cases assigned
    next =>
      obtain ⟨table, changed, same⟩ := bind_ok_iff.mp assigned
      cases same
      exact changeAt_preserves (addEntry_preserves held _) _ _ _ _ isTable
        (orMalformed_eq_ok_iff.mp changed)

theorem openTable_isTable (opened : d.openTable key = .ok d') (isTable : IsTable d.table) :
    IsTable d'.table := by
  have same : Preserves some := by
    rintro table table' isTable ⟨⟩
    exact isTable
  rw [openTable] at opened
  split at opened
  next => cases opened
  next =>
    obtain ⟨table, changed, same'⟩ := bind_ok_iff.mp opened
    cases same'
    exact changeAt_preserves same _ _ _ _ isTable (orMalformed_eq_ok_iff.mp changed)

theorem openItem_isTable (opened : d.openItem key = .ok d') (isTable : IsTable d.table) :
    IsTable d'.table := by
  rw [openItem] at opened
  split at opened
  next => cases opened
  next =>
    obtain ⟨table, changed, same⟩ := bind_ok_iff.mp opened
    cases same
    exact changeAt_preserves (addTable_preserves _) _ _ _ _ isTable
      (orMalformed_eq_ok_iff.mp changed)

theorem readHeader_isTable (read : d.readHeader cs = .ok (d', rest)) (isTable : IsTable d.table) :
    IsTable d'.table := by
  rw [readHeader.eq_def] at read
  split at read
  next =>
    obtain ⟨⟨key, left⟩, -, read⟩ := bind_ok_iff.mp read
    obtain ⟨opened, item, read⟩ := bind_ok_iff.mp read
    have isTable := openItem_isTable item isTable
    split at read
    next =>
      cases read
      exact isTable
    next => cases read
  next =>
    obtain ⟨⟨key, left⟩, -, read⟩ := bind_ok_iff.mp read
    obtain ⟨opened, table, read⟩ := bind_ok_iff.mp read
    have isTable := openTable_isTable table isTable
    split at read
    next =>
      cases read
      exact isTable
    next => cases read

theorem readAssignment_isTable (read : d.readAssignment cs = .ok (d', rest))
    (isTable : IsTable d.table) : IsTable d'.table := by
  rw [readAssignment] at read
  obtain ⟨⟨key, left⟩, -, read⟩ := bind_ok_iff.mp read
  dsimp only at read
  split at read
  next =>
    obtain ⟨⟨v, left⟩, value, read⟩ := bind_ok_iff.mp read
    obtain ⟨assigned, added, same⟩ := bind_ok_iff.mp read
    cases same
    exact assign_isTable added ((readsHeld _).value _ _ _ value) isTable
  next => cases read

theorem readStatement_isTable (read : d.readStatement cs = .ok (d', rest))
    (isTable : IsTable d.table) : IsTable d'.table := by
  rw [readStatement.eq_def] at read
  split at read
  next =>
    cases read
    exact isTable
  next => exact readHeader_isTable read isTable
  next => exact readAssignment_isTable read isTable

theorem readLines_isTable {fuel : Nat} (read : readLines fuel d cs = .ok d')
    (isTable : IsTable d.table) : IsTable d'.table := by
  induction fuel generalizing d cs with
  | zero =>
      rw [readLines] at read
      cases read
  | succ fuel ih =>
      rw [readLines] at read
      split at read
      next =>
        cases read
        exact isTable
      next => exact ih read isTable
      next =>
        obtain ⟨⟨next, left⟩, statement, read⟩ := bind_ok_iff.mp read
        have isTable := readStatement_isTable statement isTable
        obtain ⟨left, -, read⟩ := bind_ok_iff.mp read
        split at read
        next =>
          cases read
          exact isTable
        next => exact ih read isTable
        next => cases read

end Document

/-- A document is read as a table. -/
theorem read_isTable (found : read cs = .ok table) : IsTable table := by
  obtain ⟨d, lines, same⟩ := map_ok_iff.mp found
  cases same
  exact Document.readLines_isTable lines isTable_nil

end MediaNaming.Toml
