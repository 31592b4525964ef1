import ViewTree.Scope

/-!
# Handler — events

What the host passes to a handler.  An event has a default action only if it is cancelable, and
once that action is prevented it stays prevented.
-/

namespace ViewTree

/-- An event of the host. -/
structure Event where
  kind : String
  value : Value
  detail : Value
  /-- Whether it has a default action. -/
  cancelable : Bool
  /-- Whether its default action is prevented. -/
  prevented : Bool

namespace Event

/-- A new event, its default action not prevented. -/
def create (kind : String) (value detail : Value) (cancelable : Bool) : Event :=
  ⟨kind, value, detail, cancelable, false⟩

/-- Prevents the default action, if there is one. -/
def prevent (e : Event) : Event :=
  if e.cancelable then { e with prevented := true } else e

/-- The event as expressions see it. -/
def toValue (e : Event) : Value :=
  .ofFields [
    ("type", .text e.kind),
    (valueName, e.value),
    ("detail", e.detail),
    ("default_prevented", .bool e.prevented)]

end Event

/-- What a handler is invoked with. -/
inductive Input where
  | nothing
  | value (v : Value)
  | event (e : Event)

namespace Input

/-- The event in an input. -/
def event? : Input → Option Event
  | event e => some e
  | _ => none

/-- Prevents the default action of the event, if there is one. -/
def prevent : Input → Input
  | event e => event e.prevent
  | input => input

end Input

end ViewTree
