import ViewTree.Node
import ViewTree.Proofs.Expression.Operands
import ViewTree.Template

/-!
# Template — the expressions of a definition

The expressions in the texts of a value, and the names that occur in them.  Filling the value in
two scopes that agree on its expressions gives the same (`fill_congr`), and what a node definition
is made of has no expressions but those of the definition (`expressions_ofValue`).
-/

namespace ViewTree

open Template

/-! ### Expressions and names -/

/-- The expression that a piece is. -/
def Template.Piece.expression? : Piece → Option (List Char)
  | .literal _ => none
  | .expression text => some text

/-- The expressions in a text. -/
def Template.expressions (s : List Char) : List (List Char) :=
  (parse s).filterMap Piece.expression?

namespace Value

mutual

/-- The expressions in the texts of a value. -/
def expressions : Value → List (List Char)
  | .text s => Template.expressions s.toList
  | .list items => itemsExpressions items
  | .record fields => fieldsExpressions fields
  | _ => []

/-- `expressions` for the items of a list. -/
def itemsExpressions : List Value → List (List Char)
  | [] => []
  | v :: vs => expressions v ++ itemsExpressions vs

/-- `expressions` for the fields of a record. -/
def fieldsExpressions : List (String × Value) → List (List Char)
  | [] => []
  | (_, v) :: fs => expressions v ++ fieldsExpressions fs

end

/-- A name occurs in an expression of a value. -/
def Mentions (v : Value) (name : String) : Prop :=
  ∃ e ∈ v.expressions, name.toList <:+: e

instance (v : Value) (name : String) : Decidable (v.Mentions name) :=
  inferInstanceAs (Decidable (∃ e ∈ v.expressions, name.toList <:+: e))

theorem itemsExpressions_eq (items : List Value) :
    itemsExpressions items = items.flatMap expressions := by
  induction items with
  | nil => rfl
  | cons v vs ih => rw [itemsExpressions, ih, List.flatMap_cons]

theorem fieldsExpressions_eq (fields : List (String × Value)) :
    fieldsExpressions fields = fields.flatMap fun f => f.2.expressions := by
  induction fields with
  | nil => rfl
  | cons f fs ih => rw [fieldsExpressions, ih, List.flatMap_cons]

theorem expressions_subset_items {v : Value} {items : List Value} (h : v ∈ items) :
    v.expressions ⊆ itemsExpressions items := by
  intro e he
  rw [itemsExpressions_eq, List.mem_flatMap]
  exact ⟨v, h, he⟩

theorem fieldsExpressions_filter (p : String × Value → Bool) (fields : List (String × Value)) :
    fieldsExpressions (fields.filter p) ⊆ fieldsExpressions fields := by
  intro e he
  rw [fieldsExpressions_eq, List.mem_flatMap] at he ⊢
  obtain ⟨f, hf, he⟩ := he
  exact ⟨f, List.filter_sublist.mem hf, he⟩

theorem expressions_subset_of_get? {fields : Fields Value} {name : String} {v : Value}
    (h : Fields.get? fields name = some v) : v.expressions ⊆ fieldsExpressions fields := by
  intro e he
  rw [fieldsExpressions_eq, List.mem_flatMap]
  exact ⟨_, Fields.mem_of_get?_eq_some h, he⟩

end Value

/-! ### Scopes that agree on expressions -/

/-- Two scopes agree on each of some expressions. -/
def Scope.Agree (s t : Scope) (expressions : List (List Char)) : Prop :=
  ∀ e ∈ expressions, s.AgreeOn t e

namespace Scope.Agree

variable {s t : Scope} {es : List (List Char)}

theorem mono (h : s.Agree t es) {fs : List (List Char)} (hs : fs ⊆ es) : s.Agree t fs :=
  fun e he => h e (hs he)

theorem layer (h : s.Agree t es) (bindings : List (String × Value)) :
    (s.layer bindings).Agree (t.layer bindings) es :=
  fun e he => (h e he).layer bindings

end Scope.Agree

theorem Scope.agree_iff {s t : Scope} {v : Value} :
    s.Agree t v.expressions ↔ ∀ name, v.Mentions name → s.get? name = t.get? name :=
  ⟨fun h name ⟨e, he, hn⟩ => h e he name hn, fun h e he name hn => h name ⟨e, he, hn⟩⟩

/-! ### Filling -/

namespace Template

theorem splice_congr {s t : Scope} {piece : Piece}
    (h : ∀ e, piece.expression? = some e → s.AgreeOn t e) : piece.splice s = piece.splice t := by
  cases piece with
  | literal text => rfl
  | expression text => rw [Piece.splice, Piece.splice, Expression.eval_congr (h text rfl)]

theorem fillText_congr {s t : Scope} {text : String}
    (h : s.Agree t (Template.expressions text.toList)) : fillText s text = fillText t text := by
  have hpiece : ∀ piece ∈ parse text.toList, ∀ e, piece.expression? = some e → s.AgreeOn t e :=
    fun piece hp e he => h e (List.mem_filterMap.2 ⟨piece, hp, he⟩)
  have hsplice : (parse text.toList).flatMap (Piece.splice s) =
      (parse text.toList).flatMap (Piece.splice t) := by
    rw [List.flatMap_def, List.flatMap_def,
      List.map_congr_left fun piece hp => splice_congr (hpiece piece hp)]
  rw [fillText, fillText]
  split
  · next e hparse =>
      exact Expression.eval_congr (hpiece (.expression e) (hparse ▸ .head _) e rfl)
  · rw [hsplice]

mutual

/-- **Scopes that agree on the expressions of a value fill it alike.** -/
theorem fill_congr {s t : Scope} :
    ∀ {v : Value}, s.Agree t v.expressions → fill s v = fill t v
  | .text _, h => fillText_congr h
  | .list _, h => congrArg Value.list (fillItems_congr h)
  | .record _, h => congrArg Value.record (fillFields_congr h)
  | .undefined, _ | .null, _ | .bool _, _ | .number _, _ => rfl

/-- `fill_congr` for the items of a list. -/
theorem fillItems_congr {s t : Scope} :
    ∀ {items : List Value}, s.Agree t (Value.itemsExpressions items) →
      fillItems s items = fillItems t items
  | [], _ => rfl
  | v :: vs, h => by
      rw [fillItems, fillItems, fill_congr (h.mono (List.subset_append_left _ _)),
        fillItems_congr (h.mono (List.subset_append_right _ _))]

/-- `fill_congr` for the fields of a record. -/
theorem fillFields_congr {s t : Scope} :
    ∀ {fields : List (String × Value)}, s.Agree t (Value.fieldsExpressions fields) →
      fillFields s fields = fillFields t fields
  | [], _ => rfl
  | (name, v) :: fs, h => by
      rw [fillFields, fillFields, fill_congr (h.mono (List.subset_append_left _ _)),
        fillFields_congr (h.mono (List.subset_append_right _ _))]

end

end Template

/-! ### Nodes -/

namespace Node

/-- The expressions in what a node is made of. -/
def expressions : Node → List (List Char)
  | .text s => Template.expressions s.toList
  | .sequence items => Value.itemsExpressions items
  | .iteration source item => source.expressions ++ item.expressions
  | .component _ props => Value.fieldsExpressions props
  | _ => []

theorem expressions_props (v : Value) :
    Value.fieldsExpressions (props v) ⊆ v.expressions := by
  cases v with
  | record fields => exact List.Subset.refl _
  | undefined | null | bool _ | number _ => exact List.Subset.refl _
  | text s =>
      show (Value.text s).expressions ++ [] ⊆ _
      rw [List.append_nil]
      exact List.Subset.refl _
  | list items =>
      show (Value.list items).expressions ++ [] ⊆ _
      rw [List.append_nil]
      exact List.Subset.refl _

/-- A node has no expressions but those of its definition. -/
theorem expressions_ofValue (v : Value) : (ofValue v).expressions ⊆ v.expressions := by
  cases v with
  | undefined | null | bool _ | number _ | text _ | list _ => exact List.Subset.refl _
  | record fields =>
      rw [ofValue]
      unfold ofFields
      split
      · next source item hs hi =>
          exact List.append_subset.2
            ⟨Value.expressions_subset_of_get? hs, Value.expressions_subset_of_get? hi⟩
      · exact nofun
      · exact nofun
      · split
        · exact nofun
        · next name v _ _ =>
            exact List.Subset.trans (expressions_props v) (List.subset_append_left _ _)
        · exact nofun

end Node

end ViewTree
