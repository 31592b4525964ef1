import ViewTree.Surface.Basic

/-!
# Surface — views and children

A view of a surface picks from its preorder.  Turning a surface into a list of children drops
empties and fragments and keeps everything else in order, so a view that picks neither sees the
same in the children (`filterMap_asChildren`), in a fragment what it sees in the items and in a
component what it sees in the children (`filterMap_fragment`, `filterMap_node`).

* `mem_asChildren`: a list of children has neither empties nor fragments in it.
* `content_eq`: the text of a surface is what a view of it picks.
* `handlersNamed_fragment`: the handlers in a fragment are those in its items, one after the other.
* `mem_requests`, `requests_eq_nil_iff`: a surface waits for what is loading in it.
-/

namespace ViewTree.Surface

theorem listPreorder_eq (ss : List Surface) : listPreorder ss = ss.flatMap preorder := by
  induction ss with
  | nil => rfl
  | cons s ss ih => rw [listPreorder, List.flatMap_cons, ih]

theorem preorder_fragment (items : List Surface) :
    (fragment items).preorder = fragment items :: items.flatMap preorder := by
  rw [preorder, listPreorder_eq]

theorem preorder_node (component : String) (props : Fields Value) (handlers : Fields Handler)
    (children : List Surface) :
    (node component props handlers children).preorder =
      node component props handlers children :: children.flatMap preorder := by
  rw [preorder, listPreorder_eq]

section Views

variable {α : Type} (f : Surface → Option α)

mutual

/-- A view that picks neither empties nor fragments sees the same in the children of a surface. -/
theorem filterMap_asChildren (hempty : f empty = none) (hfragment : ∀ ss, f (fragment ss) = none) :
    ∀ s : Surface, s.asChildren.flatMap (fun t => t.preorder.filterMap f) = s.preorder.filterMap f
  | empty => by
      show [] = [empty].filterMap f
      rw [List.filterMap_cons_none hempty]
      rfl
  | fragment ss => by
      rw [asChildren, preorder, List.filterMap_cons_none (hfragment ss)]
      exact filterMap_listAsChildren hempty hfragment ss
  | text _ | node .. | loading _ | noData _ | unknown _ | malformed _ | crashed .. | tooDeep _ =>
      List.append_nil _

/-- `filterMap_asChildren` for surfaces one after the other. -/
theorem filterMap_listAsChildren (hempty : f empty = none)
    (hfragment : ∀ ss, f (fragment ss) = none) :
    ∀ ss : List Surface,
      (listAsChildren ss).flatMap (fun t => t.preorder.filterMap f) =
        (listPreorder ss).filterMap f
  | [] => rfl
  | s :: ss => by
      rw [listAsChildren, listPreorder, List.flatMap_append, List.filterMap_append,
        filterMap_asChildren hempty hfragment s, filterMap_listAsChildren hempty hfragment ss]

end

/-- A view that does not pick fragments sees in one what it sees in the items. -/
theorem filterMap_fragment (hfragment : ∀ ss, f (fragment ss) = none) (ss : List Surface) :
    (fragment ss).preorder.filterMap f = ss.flatMap fun s => s.preorder.filterMap f := by
  rw [preorder_fragment, List.filterMap_cons_none (hfragment ss), List.filterMap_flatMap]

/-- A view of a component picks it or not, and then what it sees in the children. -/
theorem filterMap_node (component : String) (props : Fields Value) (handlers : Fields Handler)
    (children : List Surface) :
    (node component props handlers children).preorder.filterMap f =
      [node component props handlers children].filterMap f ++
        children.flatMap fun s => s.preorder.filterMap f := by
  rw [preorder_node, ← List.singleton_append, List.filterMap_append, List.filterMap_flatMap]

end Views

/-! ### Children -/

mutual

/-- A list of children has neither empties nor fragments in it. -/
theorem mem_asChildren {t : Surface} :
    ∀ s : Surface, t ∈ s.asChildren → t ≠ empty ∧ ∀ items, t ≠ fragment items
  | empty, h => nomatch h
  | fragment ss, h => mem_listAsChildren ss h
  | text _, h | node .., h | loading _, h | noData _, h | unknown _, h | malformed _, h
  | crashed .., h | tooDeep _, h => by
      cases List.mem_singleton.1 h
      exact ⟨nofun, nofun⟩

/-- `mem_asChildren` for surfaces one after the other. -/
theorem mem_listAsChildren {t : Surface} :
    ∀ ss : List Surface, t ∈ listAsChildren ss → t ≠ empty ∧ ∀ items, t ≠ fragment items
  | [], h => nomatch h
  | s :: ss, h => by
      rcases List.mem_append.1 h with h | h
      · exact mem_asChildren s h
      · exact mem_listAsChildren ss h

end

/-! ### Texts -/

/-- The text of a surface that is one. -/
def text? : Surface → Option String
  | text s => some s
  | _ => none

theorem content_eq (s : Surface) : s.content = String.join (s.preorder.filterMap text?) := by
  rw [content]
  induction s.preorder with
  | nil => rfl
  | cons t ts ih =>
      rw [List.map_cons, String.join_cons, ih]
      cases t with
      | text s =>
          rw [List.filterMap_cons_some (rfl : text? (text s) = some s), String.join_cons]
          rfl
      | _ => exact String.empty_append

/-! ### Handlers and requests -/

theorem handlersNamed_fragment (ss : List Surface) (name : String) :
    (fragment ss).handlersNamed name = ss.flatMap fun s => s.handlersNamed name :=
  filterMap_fragment (ownHandler? name) (fun _ => rfl) ss

theorem mem_requests {s : Surface} {request : Request} :
    request ∈ s.requests ↔ loading request ∈ s.preorder := by
  rw [requests, List.mem_filterMap]
  constructor
  · rintro ⟨t, hm, ht⟩
    cases t with
    | loading other => cases ht; exact hm
    | _ => cases ht
  · exact fun h => ⟨_, h, rfl⟩

theorem requests_eq_nil_iff {s : Surface} :
    s.requests = [] ↔ ∀ request, loading request ∉ s.preorder := by
  simp only [List.eq_nil_iff_forall_not_mem, mem_requests]

end ViewTree.Surface
