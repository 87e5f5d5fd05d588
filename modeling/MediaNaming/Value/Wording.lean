import MediaNaming.Failure
import MediaNaming.Value.Text
/-!
# Values in messages

The text of a value where there is no going on without one: a value that cannot be written is a
failure. A value is written by calls inside one another, one for each container around an item.
Where there is no more room for calls, a value that needs them cannot be written either.
-/

namespace MediaNaming.Value

/-- The text of a value, or the failure of a number over the limit of digits. -/
def orTooLong (written : Option String) : Except Failure String :=
  match written with
  | some s => .ok s
  | none => .error .numberTooLong

/-- The plain text of a value. -/
def wording (v : Value) : Except Failure String :=
  orTooLong v.written?

/-- The form of a value that tells kinds apart. -/
def shownWording (v : Value) : Except Failure String :=
  orTooLong v.shown?

/-- The calls inside the one for a part of a scheme or a tag before its own value is shown. -/
def partCalls : Nat := 2

mutual

/-- The first thing that keeps a value from being shown where there is room for this many calls
inside one another. -/
def obstacle? : Value → Nat → Option Failure
  | _, 0 => some .tooDeep
  | int i, _ + 1 => if (Number.signedText? i).isNone then some .numberTooLong else none
  | list items, room + 1 => itemsObstacle? items room
  | tuple items, room + 1 => itemsObstacle? items room
  | mapping entries, room + 1 => entriesObstacle? entries room
  | literal v, room + 1 => obstacle? v (room - partCalls)
  | key v, room + 1 => obstacle? v (room - partCalls)
  | frame v, room + 1 => obstacle? v (room - partCalls)
  | wrapper v, room + 1 => obstacle? v (room - partCalls)
  | _, _ + 1 => none

/-- The same for the items of a container. -/
def itemsObstacle? : List Value → Nat → Option Failure
  | [], _ => none
  | v :: vs, room => (obstacle? v room).or (itemsObstacle? vs room)

/-- The same for the keys and the values of a mapping. -/
def entriesObstacle? : List (Value × Value) → Nat → Option Failure
  | [], _ => none
  | (k, v) :: rest, room =>
    ((obstacle? k room).or (obstacle? v room)).or (entriesObstacle? rest room)

end

/-- The plain text of a value where there is room for this many calls inside the one that writes
it. -/
def wordingWithin (room : Nat) (v : Value) : Except Failure String :=
  match v.obstacle? (room + 1) with
  | some f => .error f
  | none => v.wording

end MediaNaming.Value
