import Mathlib.Data.List.Forall2
import ViewTree.Proofs.Render.Elements

/-!
# Render — handlers and the scope they were bound in

A handler in a surface was bound for a node of the definition, in the scope in which that node was
rendered: it keeps the descriptor as it stands there, not filled in, and the arguments as they were
in that scope.  An iteration renders its item once for each element, so the handlers in it are
those of the items, each with its own element.  Invoked at any later time and in any order, a
handler makes one call, in the scope that it keeps.

* `BoundFor`: the node and the prop that a handler comes from.
* `handlersNamed_iteration`: the handlers of an iteration, item by item.
* `handlers_keep`: all of this together.
-/

namespace ViewTree.Renderer

/-- A handler comes from a prop of a node that was rendered in its scope, and has the descriptor
that stands in the prop. -/
def BoundFor (r : Renderer) (cache : Cache) (levels : Nat) (v : Value) (scope : Scope)
    (h : Handler) : Prop :=
  ∃ n u component props, Reaches r cache levels v scope n u h.scope ∧
    Node.ofValue u = .component component props ∧ (h.name, h.descriptor.toValue) ∈ props

/-- The handlers of an element are bound for the node that shows it. -/
theorem bound_of_mem_elements {settings : Settings} {cache : Cache} {levels : Nat} {v : Value}
    {scope : Scope} {e : Surface.Element}
    (he : e ∈ ((plain settings).renderAt cache levels v scope).elements)
    {p : String × Handler} (hp : p ∈ e.handlers) :
    p.2.KeepsArguments ∧ BoundFor (plain settings) cache levels v scope p.2 := by
  obtain ⟨n, u, deep, hreach, hu⟩ := mem_elements_iff.1 he
  obtain ⟨props, hn, -, -, hhandlers, -⟩ := mem_ownElements hu
  obtain ⟨w, d, hm, -, hd, hbound⟩ := mem_handlerProps (hhandlers ▸ hp)
  rw [hbound]
  refine ⟨Handler.keepsArguments_bind _ _ _ _, n, u, e.component, props, hreach, hn, ?_⟩
  exact (Descriptor.toValue_of_ofValue? hd).symm ▸ hm

theorem handlersNamed_iteration (settings : Settings) (cache : Cache) (levels : Nat)
    {v source item : Value} (hn : Node.ofValue v = .iteration source item) (scope : Scope)
    (name : String) :
    ((plain settings).renderAt cache (levels + 1) v scope).handlersNamed name =
      (elements (Template.fill scope source)).zipIdx.flatMap fun (x, i) =>
        ((plain settings).renderAt cache levels item (elementScope scope x i)).handlersNamed
          name := by
  simp only [renderAt, node, hn, iterate, Surface.handlersNamed_fragment, List.flatMap_map]

/-- **Handlers keep the scope they were bound in.**  Every handler in a surface keeps its arguments
as they were in the scope of its node, and its descriptor as it stands in the definition.  The
handlers of an iteration are those of the item rendered one level below for each element, with the
element and its position in scope.  And after any sequence of invocations and changes of a view,
whatever the host answers, it got one call for each invocation, in their order, and each with the
descriptor, the arguments and the scope of its own handler and the event and the value of its own
input. -/
theorem handlers_keep (settings : Settings) (cache : Cache) :
    (∀ v scope, ∀ e ∈ ((plain settings).render cache v scope).elements, ∀ p ∈ e.handlers,
      p.2.KeepsArguments ∧
        BoundFor (plain settings) cache (settings.maxDepth.toNat + 1) v scope p.2) ∧
    (∀ levels v source item scope name, Node.ofValue v = .iteration source item →
      ((plain settings).renderAt cache (levels + 1) v scope).handlersNamed name =
        (elements (Template.fill scope source)).zipIdx.flatMap fun (x, i) =>
          ((plain settings).renderAt cache levels item (elementScope scope x i)).handlersNamed
            name) ∧
    ∀ (σ : Type) (runner : Runner σ) (u : View.Use σ) (acts : List View.Act),
      ∃ calls, View.run runner.recording acts (u.withCalls []) =
          (View.run runner acts u).withCalls calls ∧
        List.Forall₂ (fun i call => i.1.Calls i.2 call) (View.invocations acts) calls := by
  refine ⟨?_, ?_, ?_⟩
  · intro v scope e he p hp
    exact bound_of_mem_elements he hp
  · intro levels v source item scope name hn
    exact handlersNamed_iteration settings cache levels hn scope name
  · intro σ runner u acts
    refine ⟨_, View.run_recording runner acts u [], ?_⟩
    rw [List.nil_append, List.forall₂_map_right_iff, List.forall₂_same]
    exact fun i _ => i.1.calls_call i.2

/-- A button with the element and its position as arguments. -/
def pick : Value :=
  .record [("button", .record [("onClick", .record [
    ("action", .text "pick"),
    ("args", .record [("id", .text "\x7b\x7bitem\x7d\x7d"),
      ("value", .text "\x7b\x7bindex\x7d\x7d")])])])]

/-- A button for each element. -/
def picks : Value :=
  .record [("for_each", .text "\x7b\x7bitems\x7d\x7d"), ("render_item", pick)]

/-- Two elements. -/
def picksScope : Scope :=
  Scope.empty.bind "items" (.list [.text "a", .text "b"])

/-- A host that counts and crashes. -/
def crashingRunner : Runner Nat :=
  fun _ _ n => (.crashed .unnamed, n + 1)

/-- The arguments that a handler keeps, as they are shown. -/
def shownArguments (h : Handler) : List (String × String) :=
  h.captured.map fun p => (p.1, p.2.display)

theorem handlers_keep_picks :
    ∃ h : Handler, shownArguments h = [("id", "b"), ("value", "1")] ∧ h.KeepsArguments ∧
      BoundFor (plain .default) .empty (Settings.default.maxDepth.toNat + 1) picks picksScope h ∧
      ((plain .default).renderAt .empty 9 picks picksScope).handlersNamed "onClick" =
        ((plain .default).renderAt .empty 8 pick
            (elementScope picksScope (.text "a") 0)).handlersNamed "onClick" ++
          ((plain .default).renderAt .empty 8 pick
            (elementScope picksScope (.text "b") 1)).handlersNamed "onClick" ∧
      ∃ first second, h.Calls (.value (.text "now")) first ∧ h.Calls .nothing second ∧
        View.run crashingRunner.recording
            [.invoke h (.value (.text "now")), .setState .null, .invoke h .nothing]
            (View.Use.withCalls ⟨.ofRenderer (plain .default), 0, []⟩ []) =
          View.Use.withCalls
            ⟨⟨plain .default, .null, .undefined⟩, 2, [.failed "panicked", .failed "panicked"]⟩
            [first, second] := by
  obtain ⟨hbound, hiteration, hcalls⟩ := handlers_keep .default .empty
  have hshown : [("id", "b"), ("value", "1")] ∈
      ((plain .default).render .empty picks picksScope).elements.flatMap
        (fun e => e.handlers.map fun p => shownArguments p.2) := by
    decide +kernel
  obtain ⟨e, he, hshown⟩ := List.mem_flatMap.1 hshown
  obtain ⟨⟨name, h⟩, hp, hshown⟩ := List.mem_map.1 hshown
  obtain ⟨hkeeps, hfor⟩ := hbound picks picksScope e he _ hp
  have hitems : (elements (Template.fill picksScope (.text "\x7b\x7bitems\x7d\x7d"))).zipIdx =
      [(.text "a", 0), (.text "b", 1)] := by
    with_unfolding_all rfl
  have hname := hiteration 8 picks _ pick picksScope "onClick" rfl
  simp only [hitems, List.flatMap_cons, List.flatMap_nil, List.append_nil] at hname
  obtain ⟨calls, hrun, hall⟩ := hcalls Nat crashingRunner ⟨.ofRenderer (plain .default), 0, []⟩
    [.invoke h (.value (.text "now")), .setState .null, .invoke h .nothing]
  cases hall with
  | cons hfirst hrest =>
      cases hrest with
      | cons hsecond hnil =>
          cases hnil
          exact ⟨h, hshown, hkeeps, hfor, hname, _, _, hfirst, hsecond, hrun⟩

end ViewTree.Renderer
