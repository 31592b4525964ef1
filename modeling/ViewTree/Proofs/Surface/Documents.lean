import ViewTree.Surface.Json

/-!
# Surface — the document of a list of children

The document of a surface determines that of its children: an empty surface is the null document,
a fragment an array, and nothing else is either.  So two surfaces with one document splice into
children with the same documents (`listToJson_asChildren`).
-/

namespace ViewTree

mutual

/-- The documents of the children in the document of a surface. -/
def Json.spliced : Json → List Json
  | .null => []
  | .array items => listSpliced items
  | j => [j]

/-- `spliced` for documents one after the other. -/
def Json.listSpliced : List Json → List Json
  | [] => []
  | j :: js => spliced j ++ listSpliced js

end

namespace Surface

theorem listToJson_eq (ss : List Surface) : listToJson ss = ss.map toJson := by
  induction ss with
  | nil => rfl
  | cons s ss ih => rw [listToJson, List.map_cons, ih]

theorem listToJson_append (ss ts : List Surface) :
    listToJson (ss ++ ts) = listToJson ss ++ listToJson ts := by
  rw [listToJson_eq, listToJson_eq, listToJson_eq, List.map_append]

mutual

/-- The documents of the children are those in the document of the surface. -/
theorem listToJson_asChildren : ∀ s : Surface, listToJson s.asChildren = s.toJson.spliced
  | empty => rfl
  | fragment ss => by
      rw [asChildren, toJson, Json.spliced]
      exact listToJson_listAsChildren ss
  | text _ | node .. | loading _ | noData _ | unknown _ | malformed _ | crashed .. | tooDeep _ =>
      rfl

/-- `listToJson_asChildren` for surfaces one after the other. -/
theorem listToJson_listAsChildren :
    ∀ ss : List Surface, listToJson (listAsChildren ss) = Json.listSpliced (listToJson ss)
  | [] => rfl
  | s :: ss => by
      rw [listAsChildren, listToJson_append, listToJson_asChildren s,
        listToJson_listAsChildren ss, listToJson, Json.listSpliced]

end

/-- A component is seen through the documents of its props, handlers and children. -/
theorem toJson_node_congr {component : String} {props : Fields Value}
    {handlers others : Fields Handler} {children news : List Surface}
    (hh : handlersToJson handlers = handlersToJson others)
    (hc : listToJson children = listToJson news) :
    (node component props handlers children).toJson =
      (node component props others news).toJson := by
  have hhe : handlers.isEmpty = others.isEmpty := by
    rw [← List.isEmpty_map, ← List.isEmpty_map (l := others)]
    exact congrArg List.isEmpty hh
  have hce : children.isEmpty = news.isEmpty := by
    rw [listToJson_eq, listToJson_eq] at hc
    rw [← List.isEmpty_map, ← List.isEmpty_map (l := news)]
    exact congrArg List.isEmpty hc
  rw [toJson, toJson, hh, hc, hhe, hce]

end Surface

end ViewTree
