import Mathlib.Tactic.Choose
import ViewTree.Proofs.Render.Elements

/-!
# Render — a node in its surroundings

A frame is a node definition with one place left open, which is reached only through sequences and
through the children of elements.  What is put there renders as if it stood alone at that depth, and
everything around it renders as it does around any other node, so what goes wrong in one place of a
tree stays in that place.

* `exists_filterMap_plug`: every view of a surface sees what stands before the open place, what the
  node in it shows, and what stands after it.
* `render_plug`: so do the text, the handlers and the requests of a surface, also with host
  components that may crash.
-/

namespace ViewTree

/-! ### Frames -/

/-- A node definition with one place left open. -/
inductive Frame where
  | hole
  /-- A sequence with the open place in one of its items. -/
  | item (before : List Value) (inner : Frame) (after : List Value)
  /-- A component with the open place in its children. -/
  | child (name : String) (props : Fields Value) (inner : Frame)

namespace Frame

/-- The definition with a node in the open place. -/
def plug : Frame → Value → Value
  | hole, v => v
  | item before inner after, v => .list (before ++ inner.plug v :: after)
  | child name props inner, v =>
    .record [(name, .record (Fields.insert childrenName (inner.plug v) props))]

/-- How many levels down the open place lies. -/
def depth : Frame → Nat
  | hole => 0
  | item _ inner _ => inner.depth + 1
  | child _ _ inner => inner.depth + 1

/-- Whether every component around the open place is an element of the host. -/
def OnElements (r : Renderer) : Frame → Prop
  | hole => True
  | item _ inner _ => inner.OnElements r
  | child name _ inner => r.role name = .element ∧ inner.OnElements r

end Frame

/-! ### Components around the open place -/

theorem ne_forEachName_of_isElementName {name : String} (h : isElementName name = true) :
    name ≠ forEachName ∧ name ≠ renderItemName := by
  constructor
  · rintro rfl
    exact absurd h (by decide)
  · rintro rfl
    exact absurd h (by decide)

/-- A record under one name is a component, unless the name is that of a part of an iteration. -/
theorem Node.ofValue_component {name : String} (hsource : name ≠ forEachName)
    (hitem : name ≠ renderItemName) (props : Fields Value) :
    Node.ofValue (.record [(name, .record props)]) = .component name props := by
  have hget : ∀ other, name ≠ other → Fields.get? [(name, Value.record props)] other = none :=
    fun other h => by rw [Fields.get?_cons, if_neg h, Fields.get?_nil]
  rw [Node.ofValue, Node.ofFields, hget _ hsource, hget _ hitem]
  rfl

namespace Renderer

/-- The props of a component besides the children do not depend on them. -/
theorem withoutChildren_insert (props : Fields Value) (v w : Value) :
    withoutChildren (Fields.insert childrenName v props) =
      withoutChildren (Fields.insert childrenName w props) := by
  induction props with
  | nil => rfl
  | cons p props ih =>
      obtain ⟨k, u⟩ := p
      simp only [Fields.insert, withoutChildren] at ih ⊢
      split
      · rfl
      · split
        · rfl
        · rw [List.filter_cons, List.filter_cons, ih]

/-- A component around the open place shows the element of its props, with the children that are
rendered one level below. -/
theorem node_child {r : Renderer} {name : String} (hrole : r.role name = .element) (cache : Cache)
    (below : Below) (props : Fields Value) (v : Value) (scope : Scope) :
    r.node cache below (.record [(name, .record (Fields.insert childrenName v props))]) scope =
      .node name
        (valueProps r.settings.policy (Fields.insert childrenName .undefined props) scope)
        (handlerProps r.settings.policy (Fields.insert childrenName .undefined props) scope)
        (below v scope).asChildren := by
  obtain ⟨-, -, he⟩ := isElement_of_role hrole
  obtain ⟨hsource, hitem⟩ :=
    ne_forEachName_of_isElementName (Bool.and_eq_true_iff.1 he).1
  have hchildren : children below (Fields.insert childrenName v props) scope =
      (below v scope).asChildren := by
    rw [children, Fields.get?_insert, if_pos rfl]
    rfl
  rw [node, Node.ofValue_component hsource hitem]
  simp only [component, hrole, hchildren, valueProps, handlerProps,
    withoutChildren_insert props v .undefined]

/-! ### Views -/

/-- A node rendered alone, so many levels down. -/
def renderBelow (r : Renderer) (cache : Cache) (depth : Nat) (v : Value) (scope : Scope) :
    Surface :=
  r.renderAt cache (r.settings.maxDepth.toNat + 1 - depth) v scope

theorem renderBelow_zero (r : Renderer) (cache : Cache) (v : Value) (scope : Scope) :
    r.renderBelow cache 0 v scope = r.render cache v scope := rfl

section Views

variable {α : Type} {f : Surface → Option α} (hempty : f .empty = none)
  (hfragment : ∀ ss, f (.fragment ss) = none)
  (hnode : ∀ name props handlers children others,
    f (.node name props handlers children) = f (.node name props handlers others))

omit hempty hnode in
include hfragment in
/-- A view of a sequence sees what the items show, one level below. -/
theorem filterMap_renderAt_list (r : Renderer) (cache : Cache) (levels : Nat) (items : List Value)
    (scope : Scope) :
    (r.renderAt cache (levels + 1) (.list items) scope).preorder.filterMap f =
      items.flatMap fun v => (r.renderAt cache levels v scope).preorder.filterMap f := by
  have hrender : r.renderAt cache (levels + 1) (.list items) scope =
      .fragment (items.map fun v => r.renderAt cache levels v scope) := rfl
  rw [hrender, Surface.filterMap_fragment f hfragment, List.flatMap_map]

include hempty hfragment hnode

/-- A view of an element sees something of its own, which does not depend on the children, then
what the children show. -/
theorem exists_filterMap_renderAt_child {r : Renderer} {name : String}
    (hrole : r.role name = .element) (cache : Cache) (levels : Nat) (props : Fields Value)
    (scope : Scope) :
    ∃ own : List α, ∀ v,
      (r.renderAt cache (levels + 1)
          (.record [(name, .record (Fields.insert childrenName v props))]) scope).preorder.filterMap
            f =
        own ++ (r.renderAt cache levels v scope).preorder.filterMap f := by
  let filled := Fields.insert childrenName Value.undefined props
  let shown (children : List Surface) : Surface :=
    .node name (valueProps r.settings.policy filled scope)
      (handlerProps r.settings.policy filled scope) children
  have hshown : ∀ children, [shown children].filterMap f = [shown []].filterMap f := by
    intro children
    have heq : f (shown children) = f (shown []) := hnode ..
    rw [List.filterMap_cons, List.filterMap_cons, heq]
  refine ⟨[shown []].filterMap f, fun v => ?_⟩
  rw [renderAt, node_child hrole, Surface.filterMap_node, hshown,
    Surface.filterMap_asChildren f hempty hfragment]

/-- **A view of a surface sees the node in the open place between two parts that do not depend on
it.**  This holds of every view that picks neither empties nor fragments and does not look at the
children of a component. -/
theorem exists_filterMap_plug {r : Renderer} (cache : Cache) {K : Frame} (hK : K.OnElements r)
    (levels : Nat) (scope : Scope) :
    ∃ before after : List α, ∀ v,
      (r.renderAt cache levels (K.plug v) scope).preorder.filterMap f =
        before ++ (r.renderAt cache (levels - K.depth) v scope).preorder.filterMap f ++ after := by
  induction K generalizing levels with
  | hole => exact ⟨[], [], fun v => (List.append_nil _).symm⟩
  | item first inner rest ih =>
      cases levels with
      -- the sequence itself lies too deep, and so does the open place in it
      | zero => exact ⟨[], [], fun v => by rw [Nat.zero_sub]; exact (List.append_nil _).symm⟩
      | succ levels =>
          obtain ⟨before, after, h⟩ := ih hK levels
          let view (v : Value) := (r.renderAt cache levels v scope).preorder.filterMap f
          refine ⟨first.flatMap view ++ before, after ++ rest.flatMap view, fun v => ?_⟩
          rw [Frame.plug, filterMap_renderAt_list hfragment, List.flatMap_append,
            List.flatMap_cons, h v, Frame.depth, Nat.add_sub_add_right]
          simp only [List.append_assoc, view]
  | child name props inner ih =>
      cases levels with
      | zero => exact ⟨[], [], fun v => by rw [Nat.zero_sub]; exact (List.append_nil _).symm⟩
      | succ levels =>
          obtain ⟨hrole, hinner⟩ := hK
          obtain ⟨before, after, h⟩ := ih hinner levels
          obtain ⟨own, hown⟩ := exists_filterMap_renderAt_child hempty hfragment hnode hrole cache
            levels props scope
          refine ⟨own ++ before, after, fun v => ?_⟩
          rw [Frame.plug, hown, h v, Frame.depth, Nat.add_sub_add_right]
          simp only [List.append_assoc]

end Views

/-! ### Text, handlers and requests -/

/-- **What goes wrong in one place of a tree stays there.**  Around the open place of a frame
everything renders as it does around any other node, and the node in it renders as it does alone at
that depth: its text, its handlers and the requests that it waits for stand between those of its
surroundings.  The node may be malformed, unknown, too deep or without data, and a component of the
host may crash. -/
theorem render_plug (r : Renderer) (cache : Cache) (scope : Scope) {K : Frame}
    (hK : K.OnElements r) :
    ∃ (pre post : String) (before after : String → List Handler) (earlier later : List Request),
      ∀ v,
        (r.render cache (K.plug v) scope).content =
          pre ++ (r.renderBelow cache K.depth v scope).content ++ post ∧
        (∀ name, (r.render cache (K.plug v) scope).handlersNamed name =
          before name ++ (r.renderBelow cache K.depth v scope).handlersNamed name ++ after name) ∧
        (r.render cache (K.plug v) scope).requests =
          earlier ++ (r.renderBelow cache K.depth v scope).requests ++ later := by
  let levels := r.settings.maxDepth.toNat + 1
  obtain ⟨texts, moreTexts, htexts⟩ := exists_filterMap_plug (f := Surface.text?) rfl (fun _ => rfl)
    (fun _ _ _ _ _ => rfl) cache hK levels scope
  have hhandlers (name : String) := exists_filterMap_plug (f := Surface.ownHandler? name) rfl
    (fun _ => rfl) (fun _ _ _ _ _ => rfl) cache hK levels scope
  choose before after hhandlers using hhandlers
  obtain ⟨earlier, later, hrequests⟩ := exists_filterMap_plug (f := Surface.ownRequest?) rfl
    (fun _ => rfl) (fun _ _ _ _ _ => rfl) cache hK levels scope
  refine ⟨String.join texts, String.join moreTexts, before, after, earlier, later, fun v => ?_⟩
  refine ⟨?_, fun name => hhandlers name v, hrequests v⟩
  rw [Surface.content_eq, Surface.content_eq, ← String.join_append, ← String.join_append]
  exact congrArg String.join (htexts v)

/-- A renderer with a component of the host that crashes. -/
def crashing : Renderer :=
  ⟨.default, [("Widget", fun _ => .error (.message "out of range"))]⟩

/-- A sequence with a handler and two loaders around the open place. -/
def surroundings : Frame :=
  .item [.text "a", loaderOf "x" .null]
    (.child "div" [("onClick", .text "open")] (.item [.text "b"] .hole [loaderOf "y" .null]))
    [.text "c"]

/-- A node whose component crashes. -/
def broken : Value :=
  .record [("Widget", .record [("children", loaderOf "z" .null)])]

theorem onElements_surroundings : surroundings.OnElements crashing := by
  have hrole : crashing.role "div" = .element := rfl
  exact ⟨hrole, trivial⟩

theorem render_plug_crashing :
    surroundings.OnElements crashing ∧
      crashing.renderBelow .empty surroundings.depth broken .empty =
        .crashed "Widget" "out of range" ∧
      ∃ (pre post : String) (before after : String → List Handler) (earlier later : List Request),
        ∀ v,
          (crashing.render .empty (surroundings.plug v) .empty).content =
            pre ++ (crashing.renderBelow .empty surroundings.depth v .empty).content ++ post ∧
          (∀ name, (crashing.render .empty (surroundings.plug v) .empty).handlersNamed name =
            before name ++
              (crashing.renderBelow .empty surroundings.depth v .empty).handlersNamed name ++
                after name) ∧
          (crashing.render .empty (surroundings.plug v) .empty).requests =
            earlier ++ (crashing.renderBelow .empty surroundings.depth v .empty).requests ++
              later :=
  ⟨onElements_surroundings, rfl, render_plug crashing .empty .empty onElements_surroundings⟩

end Renderer

end ViewTree
