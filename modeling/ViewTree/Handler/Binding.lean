import ViewTree.Crash
import ViewTree.Handler.Event
import ViewTree.Handler.Policy
import ViewTree.Template

/-!
# Handler — binding and invoking

A handler is bound while its node is rendered: its arguments are filled in there and then, and it
keeps the scope of the node.  It is invoked later, any number of times, and each time runs in that
scope with the event and the arguments added, the value of the moment among the arguments.  So a
handler bound in an iteration keeps its own element, whenever it is invoked.

The action itself is run by the host.  `Runner` is a host with a state; whatever it answers, the
invocation has an outcome.
-/

namespace ViewTree

/-- What a handler is to do, as the node definition says it. -/
inductive Descriptor where
  | named (action : String)
  | detailed (fields : Fields Value)

namespace Descriptor

/-- The descriptor in a value: a text or a record. -/
def ofValue? : Value → Option Descriptor
  | .text action => some (named action)
  | .record fields => some (detailed fields)
  | _ => none

/-- The name of the action. -/
def action? : Descriptor → Option String
  | named action => some action
  | detailed fields => (Fields.get? fields "action").bind Value.text?

/-- The arguments, not filled in. -/
def arguments? : Descriptor → Option Value
  | named _ => none
  | detailed fields => Fields.get? fields argsName

/-- The descriptor as a value. -/
def toValue : Descriptor → Value
  | named action => .text action
  | detailed fields => .record fields

end Descriptor

/-- Why an action failed. -/
inductive ActionFault where
  | unknown (name : String)
  | failed (action message : String)
deriving DecidableEq, Repr

/-- The message of a fault. -/
def ActionFault.message : ActionFault → String
  | .unknown name => "unknown action '" ++ name ++ "'"
  | .failed action message => "action '" ++ action ++ "' failed: " ++ message

/-- What a host answers when it runs an action. -/
inductive ActionReply where
  | done
  | refused (why : ActionFault)
  | crashed (crash : Crash)

/-- A host that runs actions and has a state. -/
abbrev Runner (σ : Type) := Descriptor → Scope → σ → ActionReply × σ

/-- How an invocation ended. -/
inductive Outcome where
  | completed
  | failed (message : String)
deriving DecidableEq, Repr

/-- The outcome of an answer of the host. -/
def ActionReply.outcome : ActionReply → Outcome
  | .done => .completed
  | .refused why => .failed why.message
  | .crashed crash => .failed crash.describe

/-- A handler bound to a node. -/
structure Handler where
  name : String
  descriptor : Descriptor
  /-- The arguments as they were when the handler was bound. -/
  captured : Fields Value
  scope : Scope
  /-- Whether it takes a bare value. -/
  takesValue : Bool
  /-- Whether it suppresses the default action of an event. -/
  preventsDefault : Bool

/-- What an invocation leaves. -/
structure Invocation (σ : Type) where
  outcome : Outcome
  /-- The input, with the default action of its event maybe prevented. -/
  input : Input
  state : σ

namespace Handler

/-- The arguments that a descriptor has in a scope, none unless they are a record. -/
def capture (scope : Scope) (d : Descriptor) : Fields Value :=
  match d.arguments?.map (Template.fill scope) with
  | some (.record fields) => fields
  | _ => []

/-- Binds a handler in a scope. -/
def bind (policy : Policy) (scope : Scope) (name : String) (d : Descriptor) : Handler where
  name := name
  descriptor := d
  captured := capture scope d
  scope := scope
  takesValue := policy.takesValue name
  preventsDefault := policy.preventsDefault name

/-- Binds the handlers among some props; a prop that is no descriptor is left out. -/
def bindAll (policy : Policy) (scope : Scope) (props : Fields Value) : Fields Handler :=
  props.filterMap fun (name, v) =>
    (Descriptor.ofValue? v).map fun d => (name, bind policy scope name d)

/-- The event and the value that an input stands for.  A handler for events that is given a bare
value takes it as the event, and the `value` field in it, if there is one, as the value. -/
def eventAndValue (h : Handler) : Input → Value × Value
  | .nothing => (.undefined, .undefined)
  | .event e => (e.toValue, e.value)
  | .value v => if h.takesValue then (.undefined, v) else (v, (v.get? valueName).getD v)

/-- The scope in which an invocation runs. -/
def runScope (h : Handler) (input : Input) : Scope :=
  let (event, value) := h.eventAndValue input
  h.scope.layer
    [(eventName, event), (argsName, .record (Fields.insert valueName value h.captured))]

/-- Invokes a handler on a host. -/
def invoke {σ : Type} (runner : Runner σ) (h : Handler) (input : Input) (s : σ) : Invocation σ :=
  let input := if h.preventsDefault then input.prevent else input
  let (reply, s) := runner h.descriptor (h.runScope input) s
  ⟨reply.outcome, input, s⟩

/-- The handler as a document. -/
def toJson (h : Handler) : Json :=
  .object [("args", (Value.record h.captured).toJson), ("descriptor", h.descriptor.toValue.toJson)]

end Handler

end ViewTree
