import ViewTree.Proofs.Render.Depth
import ViewTree.Proofs.Render.Frames
import ViewTree.Proofs.Surface.Children

/-!
# Render — children and how they are grouped

The children of an element may be given as one node, as a list of nodes or as lists inside lists.
Every list is rendered to a fragment one level further down, and the element splices them all, so
only the leaves count, in their order.  A leaf in a deeper list has fewer levels left; as long as no
node lies too deep that has no bearing on what it renders to.

* `Value.leaves`: the nodes that are left of nested lists.
* `asChildren_renderAt`: the children in a node are those of its leaves, on any level above.
* `renderBelow_regrouped`: elements whose children have the same leaves render to one surface.
-/

namespace ViewTree

namespace Value

mutual

/-- The nodes in nested lists, in their order, without what renders to nothing; any other node is
the only one. -/
def leaves : Value → List Value
  | undefined => []
  | null => []
  | list items => listLeaves items
  | v => [v]

/-- `leaves` for nodes one after the other. -/
def listLeaves : List Value → List Value
  | [] => []
  | v :: vs => leaves v ++ listLeaves vs

end

end Value

namespace Renderer

variable {settings : Settings} {cache : Cache} {scope : Scope}

/-- A surface without markers is the same with more levels left. -/
theorem renderAt_eq_of_le {levels more : Nat} {v : Value}
    (h : ((plain settings).renderAt cache levels v scope).limits = []) (hle : levels ≤ more) :
    (plain settings).renderAt cache more v scope =
      (plain settings).renderAt cache levels v scope :=
  renderAt_withMaxDepth h hle settings.maxDepth

/-- A node that leaves no marker has levels left. -/
theorem exists_levels {levels : Nat} {v : Value}
    (h : ((plain settings).renderAt cache levels v scope).limits = []) :
    ∃ rest, levels = rest + 1 := by
  cases levels with
  | zero => cases h
  | succ rest => exact ⟨rest, rfl⟩

theorem limits_renderAt_list (levels : Nat) (items : List Value) :
    ((plain settings).renderAt cache (levels + 1) (.list items) scope).limits =
      items.flatMap fun v => ((plain settings).renderAt cache levels v scope).limits :=
  filterMap_renderAt_list (fun _ => rfl) (plain settings) cache levels items scope

/-- A node gives the same children with more levels left. -/
theorem asChildren_renderAt_of_le {levels more : Nat} {v : Value}
    (h : ((plain settings).renderAt cache levels v scope).limits = []) (hle : levels ≤ more) :
    ((plain settings).renderAt cache levels v scope).asChildren =
      [v].flatMap fun u => ((plain settings).renderAt cache more u scope).asChildren := by
  rw [List.flatMap_singleton, renderAt_eq_of_le h hle]

mutual

/-- **The children in a node are those of its leaves**, if nothing lies too deep.  The leaves may be
rendered with any number of levels left that is no smaller. -/
theorem asChildren_renderAt : ∀ (v : Value) {levels more : Nat},
    ((plain settings).renderAt cache levels v scope).limits = [] → levels ≤ more →
    ((plain settings).renderAt cache levels v scope).asChildren =
      v.leaves.flatMap fun u => ((plain settings).renderAt cache more u scope).asChildren
  | .undefined, _, _, h, _ => by
      obtain ⟨rest, rfl⟩ := exists_levels h
      rfl
  | .null, _, _, h, _ => by
      obtain ⟨rest, rfl⟩ := exists_levels h
      rfl
  | .list items, _, _, h, hle => by
      obtain ⟨rest, rfl⟩ := exists_levels h
      rw [limits_renderAt_list, List.flatMap_eq_nil_iff] at h
      exact listAsChildren_renderAt items h (Nat.le_of_succ_le hle)
  | .bool _, _, _, h, hle | .number _, _, _, h, hle | .text _, _, _, h, hle
  | .record _, _, _, h, hle => asChildren_renderAt_of_le h hle

/-- `asChildren_renderAt` for nodes one after the other. -/
theorem listAsChildren_renderAt : ∀ (vs : List Value) {levels more : Nat},
    (∀ v ∈ vs, ((plain settings).renderAt cache levels v scope).limits = []) → levels ≤ more →
    Surface.listAsChildren (vs.map fun v => (plain settings).renderAt cache levels v scope) =
      (Value.listLeaves vs).flatMap fun u =>
        ((plain settings).renderAt cache more u scope).asChildren
  | [], _, _, _, _ => rfl
  | v :: vs, _, _, h, hle => by
      obtain ⟨hv, hvs⟩ := List.forall_mem_cons.1 h
      rw [List.map_cons, Surface.listAsChildren, Value.listLeaves, List.flatMap_append,
        asChildren_renderAt v hv hle, listAsChildren_renderAt vs hvs hle]

end

/-- A component with some children. -/
def componentOf (name : String) (props : Fields Value) (children : Value) : Value :=
  .record [(name, .record (Fields.insert childrenName children props))]

/-- The markers in an element are those in its children, one level below. -/
theorem limits_renderAt_componentOf {name : String} (hrole : (plain settings).role name = .element)
    (props : Fields Value) (levels : Nat) (v : Value) :
    ((plain settings).renderAt cache (levels + 1) (componentOf name props v) scope).limits =
      ((plain settings).renderAt cache levels v scope).limits := by
  rw [renderAt, componentOf, node_child hrole, Surface.limits, Surface.filterMap_node,
    Surface.filterMap_asChildren Surface.ownLimit? rfl fun _ => rfl]
  rfl

/-- **How children are grouped is invisible.**  Take an element with the same other props and two
values of its children that have the same leaves, without components of the host.  If nothing lies
too deep in either of them, they render to one surface, at whatever depths they stand; at depth 0
that is `render`. -/
theorem renderBelow_regrouped {name : String} (hrole : (plain settings).role name = .element)
    (props : Fields Value) {v w : Value} (hleaves : v.leaves = w.leaves) {depth other : Nat}
    (hv : ∀ limit, .tooDeep limit ∉
      ((plain settings).renderBelow cache depth (componentOf name props v) scope).preorder)
    (hw : ∀ limit, .tooDeep limit ∉
      ((plain settings).renderBelow cache other (componentOf name props w) scope).preorder) :
    (plain settings).renderBelow cache depth (componentOf name props v) scope =
      (plain settings).renderBelow cache other (componentOf name props w) scope := by
  have hfirst := Surface.limits_eq_nil_iff.2 hv
  have hsecond := Surface.limits_eq_nil_iff.2 hw
  simp only [renderBelow] at hfirst hsecond ⊢
  obtain ⟨levels, hlevels⟩ := exists_levels hfirst
  obtain ⟨others, hothers⟩ := exists_levels hsecond
  rw [hlevels, limits_renderAt_componentOf hrole] at hfirst
  rw [hothers, limits_renderAt_componentOf hrole] at hsecond
  -- both are the children of the same leaves, rendered with as many levels as the higher one has
  have hchildren : ((plain settings).renderAt cache levels v scope).asChildren =
      ((plain settings).renderAt cache others w scope).asChildren := by
    rw [asChildren_renderAt v hfirst (Nat.le_max_left levels others),
      asChildren_renderAt w hsecond (Nat.le_max_right levels others), hleaves]
  rw [hlevels, hothers, renderAt, renderAt, componentOf, componentOf, node_child hrole,
    node_child hrole, hchildren]

/-- An element with a handler and some children. -/
def handledList (children : Value) : Value :=
  componentOf "ul" [("onClick", .text "open")] children

/-- A text with a template and a loader, in one list each. -/
def listedChildren : Value :=
  .list [.list [.text "\x7b\x7ba\x7d\x7d"], .null, .list [loaderOf "x" .null]]

/-- The same in lists of other depths. -/
def nestedChildren : Value :=
  .list [.text "\x7b\x7ba\x7d\x7d",
    .list [.undefined, .list [.list [loaderOf "x" .null]], .list []]]

theorem renderBelow_regrouped_nestedChildren :
    (plain .default).role "ul" = .element ∧ listedChildren.leaves = nestedChildren.leaves ∧
      (plain .default).render .empty (handledList listedChildren)
          (Scope.empty.bind "a" (.text "apples")) =
        (plain .default).render .empty (handledList nestedChildren)
          (Scope.empty.bind "a" (.text "apples")) := by
  have hrole : (plain .default).role "ul" = .element := rfl
  have hleaves : listedChildren.leaves = nestedChildren.leaves := rfl
  have hlisted : ((plain .default).renderBelow .empty 0 (handledList listedChildren)
      (Scope.empty.bind "a" (.text "apples"))).limits = [] := by decide +kernel
  have hnested : ((plain .default).renderBelow .empty 0 (handledList nestedChildren)
      (Scope.empty.bind "a" (.text "apples"))).limits = [] := by decide +kernel
  exact ⟨hrole, hleaves, renderBelow_regrouped hrole _ hleaves
    (Surface.limits_eq_nil_iff.1 hlisted) (Surface.limits_eq_nil_iff.1 hnested)⟩

end Renderer

end ViewTree
