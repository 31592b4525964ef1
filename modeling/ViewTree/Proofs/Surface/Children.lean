import ViewTree.Proofs.Surface.Views

/-!
# Surface — flattening into children

A component takes a surface in as a list of children, with the fragments spliced and the empties
dropped.  Fragments and empties show nothing themselves, so nothing that a view picks is lost on the
way, and what is left is in the order in which it stood.

* `listAsChildren_eq_self`: a list without empties and fragments is flat already.
* `isBlank_eq_isEmpty`: a surface is blank if it has no children.
* `asChildren_faithful`: all of this together with what the views see.
-/

namespace ViewTree.Surface

/-! ### Lists that are flat -/

/-- A surface that is neither empty nor a fragment is its only child. -/
theorem asChildren_eq_singleton {s : Surface} (hempty : s ≠ empty)
    (hfragment : ∀ items, s ≠ fragment items) : s.asChildren = [s] := by
  cases s with
  | empty => exact absurd rfl hempty
  | fragment items => exact absurd rfl (hfragment items)
  | _ => rfl

theorem listAsChildren_eq_self {ss : List Surface}
    (h : ∀ s ∈ ss, s ≠ empty ∧ ∀ items, s ≠ fragment items) : listAsChildren ss = ss := by
  induction ss with
  | nil => rfl
  | cons s ss ih =>
      obtain ⟨⟨hempty, hfragment⟩, hss⟩ := List.forall_mem_cons.1 h
      rw [listAsChildren, asChildren_eq_singleton hempty hfragment, ih hss]
      rfl

/-! ### Blank surfaces -/

mutual

/-- A surface is blank if it has no children. -/
theorem isBlank_eq_isEmpty : ∀ s : Surface, s.isBlank = s.asChildren.isEmpty
  | empty => rfl
  | fragment ss => by
      rw [isBlank, asChildren]
      exact listIsBlank_eq_isEmpty ss
  | text _ | node .. | loading _ | noData _ | unknown _ | malformed _ | crashed .. | tooDeep _ =>
      rfl

/-- `isBlank_eq_isEmpty` for surfaces one after the other. -/
theorem listIsBlank_eq_isEmpty : ∀ ss : List Surface, listIsBlank ss = (listAsChildren ss).isEmpty
  | [] => rfl
  | s :: ss => by
      rw [listIsBlank, listAsChildren, isBlank_eq_isEmpty s, listIsBlank_eq_isEmpty ss]
      cases s.asChildren <;> rfl

end

/-! ### What the views see -/

/-- The components of a name are what a view of the surface picks. -/
theorem components_eq (s : Surface) (name : String) :
    s.components name = s.preorder.filterMap (Option.guard (isComponent name)) := by
  rw [List.filterMap_eq_filter]
  rfl

/-- The texts of a list of surfaces, joined one by one or all at once. -/
theorem join_content (ss : List Surface) :
    String.join (ss.map content) =
      String.join (ss.flatMap fun s => s.preorder.filterMap text?) := by
  induction ss with
  | nil => rfl
  | cons s ss ih =>
      rw [List.map_cons, String.join_cons, List.flatMap_cons, String.join_append, ih, content_eq]

/-- **Flattening into children loses and reorders nothing.**  The children are neither empties nor
fragments; the text, the components and the handlers of a name and the requests of a surface are
those of its children, one after the other; a surface is blank exactly if it has no children; and
children that are put into a fragment and flattened again are the same. -/
theorem asChildren_faithful (s : Surface) :
    (∀ t ∈ s.asChildren, t ≠ empty ∧ ∀ items, t ≠ fragment items) ∧
    s.content = String.join (s.asChildren.map content) ∧
    (∀ name, s.components name = s.asChildren.flatMap fun t => t.components name) ∧
    (∀ name, s.handlersNamed name = s.asChildren.flatMap fun t => t.handlersNamed name) ∧
    s.requests = s.asChildren.flatMap requests ∧
    (s.isBlank = true ↔ s.asChildren = []) ∧
    (fragment s.asChildren).asChildren = s.asChildren := by
  have hflat : ∀ t ∈ s.asChildren, t ≠ empty ∧ ∀ items, t ≠ fragment items :=
    fun t ht => mem_asChildren s ht
  refine ⟨hflat, ?_, ?_, ?_, ?_, ?_, ?_⟩
  · rw [content_eq, join_content, filterMap_asChildren text? rfl fun _ => rfl]
  · intro name
    simp only [components_eq]
    exact (filterMap_asChildren (Option.guard (isComponent name)) rfl (fun _ => rfl) s).symm
  · intro name
    exact (filterMap_asChildren (ownHandler? name) rfl (fun _ => rfl) s).symm
  · exact (filterMap_asChildren ownRequest? rfl (fun _ => rfl) s).symm
  · rw [isBlank_eq_isEmpty, List.isEmpty_iff]
  · rw [asChildren]
    exact listAsChildren_eq_self hflat

/-- A component between two fragments, with a fragment inside it. -/
def nestedFragments : Surface :=
  .fragment [.fragment [.text "a", .empty], .node "p" [] [] [.fragment [.text "b", .empty]],
    .fragment [.empty, .fragment [.text "c"]]]

theorem asChildren_faithful_nestedFragments :
    nestedFragments.asChildren.length = 3 ∧
      (∀ t ∈ nestedFragments.asChildren, t ≠ empty ∧ ∀ items, t ≠ fragment items) ∧
      nestedFragments.content = "abc" ∧
      String.join (nestedFragments.asChildren.map content) = "abc" ∧
      nestedFragments.isBlank = false := by
  obtain ⟨hflat, hcontent, -⟩ := asChildren_faithful nestedFragments
  have habc : nestedFragments.content = "abc" := by decide +kernel
  exact ⟨rfl, hflat, habc, hcontent ▸ habc, rfl⟩

end ViewTree.Surface
