import MediaNaming.Failure
import MediaNaming.Value.Basic
/-!
# Log records

A record has a level, a message and attributes: which event of a run it reports, and about which
file.
-/

namespace MediaNaming.Log

/-- How much a record matters. -/
inductive Level where
  | debug
  | info
  | warning
  | error
  | critical
  deriving DecidableEq, Repr

namespace Level

/-- The rank of a level. -/
def rank : Level → Nat
  | debug => 10
  | info => 20
  | warning => 30
  | error => 40
  | critical => 50

/-- The name of a level. -/
def title : Level → String
  | debug => "DEBUG"
  | info => "INFO"
  | warning => "WARNING"
  | error => "ERROR"
  | critical => "CRITICAL"

/-- The level of a name. -/
def ofTitle? (s : String) : Option Level :=
  [debug, info, warning, error, critical].find? (·.title = s)

end Level

/-- The events of planning and renaming. -/
inductive Event where
  | planStart
  | planComplete
  | fileResolved
  | fileSkipped
  | renameStart
  | renameComplete
  | pairDone
  | pairSkipped
  deriving DecidableEq, Repr

/-- The name of an event. -/
def Event.title : Event → String
  | planStart => "plan.batch.start"
  | planComplete => "plan.batch.complete"
  | fileResolved => "plan.file.resolved"
  | fileSkipped => "plan.file.skipped"
  | renameStart => "rename.batch.start"
  | renameComplete => "rename.batch.complete"
  | pairDone => "rename.pair.done"
  | pairSkipped => "rename.pair.skipped"

/-- What a record tells besides its message. -/
inductive Attribute where
  | event
  | sourcePath
  | targetName
  | token
  | errorMessage
  | total
  | succeeded
  | skipped
  deriving DecidableEq, Repr

/-- One record. -/
structure Record where
  level : Level
  message : String
  attributes : List (Attribute × Value)
  /-- The failure that the record reports. -/
  failure : Option Failure

namespace Record

/-- An attribute, if the record has it. -/
def get? (r : Record) (a : Attribute) : Option Value :=
  r.attributes.lookup a

/-- A record without attributes. -/
def plain (level : Level) (message : String) : Record :=
  ⟨level, message, [], none⟩

/-- A record at the start or the end of a run, with its counters. -/
def summary (event : Event) (message : String) (total succeeded skipped : Nat) : Record :=
  ⟨.info, message,
    [(.event, .text event.title), (.total, .int total), (.succeeded, .int succeeded),
      (.skipped, .int skipped)], none⟩

end Record

/-- The outcome of a computation, and the records it logged on the way. -/
structure Traced (α : Type) where
  outcome : Except Failure α
  logs : List Record

namespace Traced

/-- A value, with nothing logged. -/
def ok {α : Type} (a : α) : Traced α :=
  ⟨.ok a, []⟩

/-- A failure, with nothing logged. -/
def fail {α : Type} (f : Failure) : Traced α :=
  ⟨.error f, []⟩

/-- An outcome, with nothing logged. -/
def ofExcept {α : Type} (outcome : Except Failure α) : Traced α :=
  ⟨outcome, []⟩

/-- Goes on with the value; a failure ends the computation. -/
def bind {α β : Type} (t : Traced α) (f : α → Traced β) : Traced β :=
  match t.outcome with
  | .error e => ⟨.error e, t.logs⟩
  | .ok a => ⟨(f a).outcome, t.logs ++ (f a).logs⟩

/-- Records are kept in the order of the steps. -/
instance : Monad Traced where
  pure := ok
  bind := bind

/-- Logs records in front. -/
def after {α : Type} (logs : List Record) (t : Traced α) : Traced α :=
  ⟨t.outcome, logs ++ t.logs⟩

end Traced

end MediaNaming.Log
