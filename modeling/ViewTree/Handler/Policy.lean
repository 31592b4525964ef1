import ViewTree.Json.Shape
import ViewTree.Names

/-!
# Handler — which props bind handlers

A prop binds a handler if it is named like one or listed in one of two sets.  The sets are
independent of each other: the first holds the handlers that take a bare value instead of an event,
the second those that suppress the default action of an event.
-/

namespace ViewTree

/-- Whether a prop is named like a handler: `on` before a capital letter, or `on_` before
anything. -/
def isEventName (name : String) : Bool :=
  match name.toList with
  | 'o' :: 'n' :: c :: rest => c.isUpper || (c == '_' && !rest.isEmpty)
  | _ => false

/-- The handlers listed by name. -/
structure Policy where
  /-- The handlers that take a bare value. -/
  valueTakers : Names
  /-- The handlers that suppress the default action of an event. -/
  defaultPreventers : Names

namespace Policy

/-- The policy unless the settings give another. -/
def default : Policy where
  valueTakers := Names.ofList
    ["onChange", "onValueChange", "onInput", "on_change", "onchange", "oninput"]
  defaultPreventers := Names.ofList
    ["onSubmit", "onPress", "onClick", "on_submit", "on_press", "on_tap", "onsubmit", "onclick"]

/-- Whether a handler takes a bare value. -/
def takesValue (p : Policy) (name : String) : Bool :=
  decide (name ∈ p.valueTakers)

/-- Whether a handler suppresses the default action of an event. -/
def preventsDefault (p : Policy) (name : String) : Bool :=
  decide (name ∈ p.defaultPreventers)

/-- Whether a prop binds a handler. -/
def bindsHandler (p : Policy) (name : String) : Bool :=
  isEventName name || p.takesValue name || p.preventsDefault name

/-- The names of the fields, in order. -/
def fieldNames : List String :=
  ["value_handlers", "prevent_default_handlers"]

/-- The policy as the fields of a document. -/
def toEntries (p : Policy) : List (String × Json) :=
  [("value_handlers", .array (p.valueTakers.toList.map .text)),
    ("prevent_default_handlers", .array (p.defaultPreventers.toList.map .text))]

/-- The policy that the fields of a document give; a set left out is the default one. -/
def ofEntries (entries : List (String × Json)) : Except Json.Mismatch Policy := do
  let valueTakers ← Json.field "value_handlers" [] Json.asTexts entries
  let prevent ← Json.field "prevent_default_handlers" [] Json.asTexts entries
  return {
    valueTakers := (valueTakers.map Names.ofList).getD default.valueTakers
    defaultPreventers := (prevent.map Names.ofList).getD default.defaultPreventers }

/-- The policy that a document gives. -/
def ofJson (j : Json) : Except Json.Mismatch Policy := do
  ofEntries (← j.asEntries fieldNames)

end Policy

end ViewTree
