import ViewTree.View

/-!
# Handler — what a handler keeps and what it calls

A handler is bound once and invoked any number of times.  Binding keeps the descriptor as it stands
in the definition and the arguments as they are in the scope of the node; an invocation makes one
call on the host, in that scope with the event and the arguments laid over it.

* `KeepsArguments`: the arguments kept are those of the descriptor, filled in the scope kept.
* `Calls`: which call an invocation has to make, said for each kind of input (`Delivers`).
* `run_recording`: a host that also writes its calls down answers as before, and after any sequence
  of invocations and changes of the view it has written down one call for each invocation.
-/

namespace ViewTree

/-! ### What is bound -/

theorem Descriptor.toValue_of_ofValue? {v : Value} {d : Descriptor} (h : ofValue? v = some d) :
    d.toValue = v := by
  cases v with
  | text action => cases h; rfl
  | record fields => cases h; rfl
  | undefined | null | bool _ | number _ | list _ => cases h

namespace Handler

theorem mem_bindAll_iff {policy : Policy} {scope : Scope} {props : Fields Value}
    {p : String × Handler} :
    p ∈ bindAll policy scope props ↔
      ∃ v d, (p.1, v) ∈ props ∧ Descriptor.ofValue? v = some d ∧
        p.2 = bind policy scope p.1 d := by
  rw [bindAll, List.mem_filterMap]
  constructor
  · rintro ⟨⟨name, v⟩, hm, h⟩
    obtain ⟨d, hd, rfl⟩ := Option.map_eq_some_iff.1 h
    exact ⟨v, d, hm, hd, rfl⟩
  · rintro ⟨v, d, hm, hd, hp⟩
    refine ⟨(p.1, v), hm, Option.map_eq_some_iff.2 ⟨d, hd, ?_⟩⟩
    exact Prod.ext rfl hp.symm

/-- The arguments that a handler keeps are those of its descriptor, filled in the scope that it
keeps, if they are a record, and none otherwise. -/
structure KeepsArguments (h : Handler) : Prop where
  ofRecord : ∀ fields, h.descriptor.arguments?.map (Template.fill h.scope) = some (.record fields) →
    h.captured = fields
  otherwise : (∀ fields,
    h.descriptor.arguments?.map (Template.fill h.scope) ≠ some (.record fields)) → h.captured = []

theorem keepsArguments_bind (policy : Policy) (scope : Scope) (name : String) (d : Descriptor) :
    (bind policy scope name d).KeepsArguments where
  ofRecord fields h := by
    have hfilled : d.arguments?.map (Template.fill scope) = some (.record fields) := h
    show capture scope d = fields
    rw [capture, hfilled]
  otherwise h := by
    show capture scope d = []
    rw [capture]
    split
    · next fields hf => exact absurd hf (h fields)
    · rfl

/-! ### What is called -/

/-- The event and the value of the moment that an input delivers to a handler. -/
inductive Delivers (h : Handler) : Input → Value → Value → Prop where
  | nothing : Delivers h .nothing .undefined .undefined
  /-- An event, prevented if the handler prevents it, and the value that it carries. -/
  | event (e : Event) :
      Delivers h (.event e) (if h.preventsDefault then e.prevent else e).toValue e.value
  /-- A bare value, for a handler that takes one. -/
  | bare (v : Value) (ht : h.takesValue = true) : Delivers h (.value v) .undefined v
  /-- A bare value as the event of a handler that takes events, with the value in it. -/
  | inside (v x : Value) (ht : h.takesValue = false) (hx : v.get? valueName = some x) :
      Delivers h (.value v) v x
  /-- The same, with no value in it. -/
  | whole (v : Value) (ht : h.takesValue = false) (hx : v.get? valueName = none) :
      Delivers h (.value v) v v

end Handler

/-- A call on a host. -/
structure Call where
  descriptor : Descriptor
  scope : Scope

/-- What the call of an invocation has to be: the descriptor is that of the handler, event and
arguments are those of the input, and every other name stands for what it stood for when the
handler was bound. -/
structure Handler.Calls (h : Handler) (input : Input) (call : Call) : Prop where
  descriptor : call.descriptor = h.descriptor
  delivers : ∃ event value, h.Delivers input event value ∧
    call.scope.get? eventName = some event ∧
    call.scope.get? argsName = some (.record (Fields.insert valueName value h.captured))
  others : ∀ name, name ≠ eventName → name ≠ argsName → call.scope.get? name = h.scope.get? name

namespace Handler

/-- The input as the action finds it. -/
def received (h : Handler) (input : Input) : Input :=
  if h.preventsDefault then input.prevent else input

/-- The call that an invocation makes. -/
def call (h : Handler) (input : Input) : Call :=
  ⟨h.descriptor, h.runScope (h.received input)⟩

theorem delivers_received (h : Handler) (input : Input) :
    h.Delivers input (h.eventAndValue (h.received input)).1
      (h.eventAndValue (h.received input)).2 := by
  cases input with
  | nothing =>
      have hr : h.received .nothing = .nothing := by
        rw [received]
        split <;> rfl
      rw [hr]
      exact .nothing
  | event e =>
      have hr : h.received (.event e) = .event (if h.preventsDefault then e.prevent else e) := by
        rw [received]
        split <;> rfl
      have hv : (if h.preventsDefault then e.prevent else e).value = e.value := by
        split
        · rw [Event.prevent]
          split <;> rfl
        · rfl
      simp only [hr, eventAndValue, hv]
      exact .event e
  | value v =>
      have hr : h.received (.value v) = .value v := by
        rw [received]
        split <;> rfl
      simp only [hr, eventAndValue]
      cases ht : h.takesValue with
      | true => exact .bare v ht
      | false =>
          cases hx : v.get? valueName with
          | none => exact .whole v ht hx
          | some x => exact .inside v x ht hx

/-- Event and arguments are laid over the scope of the handler. -/
theorem get?_runScope (h : Handler) (input : Input) (name : String) :
    (h.runScope input).get? name =
      if argsName = name then
        some (.record (Fields.insert valueName (h.eventAndValue input).2 h.captured))
      else if eventName = name then some (h.eventAndValue input).1
      else h.scope.get? name := by
  simp only [runScope, Scope.get?_layer, Fields.get?_ofList, List.reverse_cons, List.reverse_nil,
    List.nil_append, List.singleton_append, Fields.get?_cons, Fields.get?_nil]
  split
  · rfl
  · split <;> rfl

theorem calls_call (h : Handler) (input : Input) : h.Calls input (h.call input) where
  descriptor := rfl
  delivers := by
    refine ⟨_, _, h.delivers_received input, ?_, ?_⟩
    · rw [call, get?_runScope, if_neg (by decide), if_pos rfl]
    · rw [call, get?_runScope, if_pos rfl]
  others name he ha := by
    rw [call, get?_runScope, if_neg (Ne.symm ha), if_neg (Ne.symm he)]

end Handler

/-- The host that also writes down the calls made on it, each after the earlier ones. -/
def Runner.recording {σ : Type} (runner : Runner σ) : Runner (σ × List Call) :=
  fun descriptor scope (s, calls) =>
    let (reply, s) := runner descriptor scope s
    (reply, s, calls ++ [⟨descriptor, scope⟩])

/-! ### What happens between two renders -/

namespace View

/-- What happens to a view between two renders. -/
inductive Act where
  | invoke (h : Handler) (input : Input)
  | setState (v : Value)
  | setData (v : Value)

/-- A view in use, on a host with a state. -/
structure Use (σ : Type) where
  view : View
  state : σ
  /-- How the invocations ended, the first one first. -/
  outcomes : List Outcome

variable {σ : Type}

/-- What an act leaves. -/
def act (runner : Runner σ) (u : Use σ) : Act → Use σ
  | .invoke h input =>
    let invocation := h.invoke runner input u.state
    ⟨u.view, invocation.state, u.outcomes ++ [invocation.outcome]⟩
  | .setState v => { u with view := { u.view with state := v } }
  | .setData v => { u with view := { u.view with data := v } }

/-- What some acts leave. -/
def run (runner : Runner σ) (acts : List Act) (u : Use σ) : Use σ :=
  acts.foldl (act runner) u

/-- The invocation that an act is. -/
def Act.invocation? : Act → Option (Handler × Input)
  | .invoke h input => some (h, input)
  | .setState _ => none
  | .setData _ => none

/-- The invocations among some acts. -/
def invocations (acts : List Act) : List (Handler × Input) :=
  acts.filterMap Act.invocation?

/-- A use of a view with the calls written down. -/
def Use.withCalls (u : Use σ) (calls : List Call) : Use (σ × List Call) :=
  ⟨u.view, (u.state, calls), u.outcomes⟩

/-- An invocation writes down one call, and nothing else does. -/
theorem act_recording (runner : Runner σ) (u : Use σ) (calls : List Call) (a : Act) :
    act runner.recording (u.withCalls calls) a =
      (act runner u a).withCalls (calls ++ (invocations [a]).map fun i => i.1.call i.2) := by
  cases a with
  | invoke h input => rfl
  | setState v | setData v =>
      show _ = Use.withCalls _ (calls ++ [])
      rw [List.append_nil]
      rfl

/-- **One call for each invocation.**  Whatever the host answers, after any sequence of acts it has
written down the calls of the invocations in their order, and all else is as if it wrote nothing
down. -/
theorem run_recording (runner : Runner σ) (acts : List Act) (u : Use σ) (calls : List Call) :
    run runner.recording acts (u.withCalls calls) =
      (run runner acts u).withCalls (calls ++ (invocations acts).map fun i => i.1.call i.2) := by
  induction acts generalizing u calls with
  | nil =>
      show u.withCalls calls = u.withCalls (calls ++ [])
      rw [List.append_nil]
  | cons a acts ih =>
      have hsplit : invocations (a :: acts) = invocations [a] ++ invocations acts :=
        List.filterMap_append (l := [a])
      have hstep : ∀ {τ : Type} (host : Runner τ) (w : Use τ),
          run host (a :: acts) w = run host acts (act host w a) :=
        fun _ _ => rfl
      rw [hstep, hstep, act_recording, ih, hsplit, List.map_append, List.append_assoc]

end View

end ViewTree
