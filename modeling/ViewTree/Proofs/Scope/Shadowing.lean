import ViewTree.Proofs.Data.Keys
import ViewTree.Proofs.Template.Mentions

/-!
# Scope — layers that shadow each other

A scope grows by extensions, one after the other, each of which may bind any names or none.  What a
name stands for is what the latest extension that binds it gives it (`get?_extended`), however the
bindings are spread over the layers: the one table of all bindings gives every name the same
(`get?_bindings`), and nothing that is evaluated in a scope depends on more than that table.

* `get?_extend`, `height_extend`: what one extension does.
* `agreeOn_of_bindings_eq`: scopes with one table agree on every text.
* `extended_shadows`: all of this together.
-/

namespace ViewTree

/-- What some bindings give a name: the last one of it counts. -/
def Fields.given? {α : Type} (bindings : List (String × α)) (name : String) : Option α :=
  (bindings.filter fun b => b.1 == name).getLast?.map fun b => b.2

theorem Fields.given?_eq_get?_reverse {α : Type} (bindings : List (String × α)) (name : String) :
    given? bindings name = get? bindings.reverse name := by
  induction bindings with
  | nil => rfl
  | cons b bs ih =>
      obtain ⟨k, v⟩ := b
      rw [List.reverse_cons, get?_append, ← ih, given?, given?, List.filter_cons, get?_cons,
        get?_nil]
      by_cases hk : k = name
      · rw [if_pos (beq_iff_eq.2 hk), if_pos hk, List.getLast?_cons]
        cases (bs.filter fun b => b.1 == name).getLast? <;> rfl
      · rw [if_neg fun h => hk (beq_iff_eq.1 h), if_neg hk, Option.or_none]

namespace Scope

/-! ### Extensions -/

/-- A way to put bindings over a scope. -/
inductive Extension where
  /-- Any bindings, of which several may be of one name. -/
  | layer (bindings : List (String × Value))
  | bind (name : String) (value : Value)

/-- The bindings of an extension in the order in which they are given. -/
def Extension.bindings : Extension → List (String × Value)
  | layer bindings => bindings
  | bind name value => [(name, value)]

/-- The scope with an extension over it. -/
def extend (scope : Scope) : Extension → Scope
  | .layer bindings => scope.layer bindings
  | .bind name value => scope.bind name value

/-- The scope that is empty at first and gets extensions one after the other. -/
def extended (es : List Extension) : Scope :=
  es.foldl extend empty

theorem extend_eq_layer (scope : Scope) (e : Extension) :
    scope.extend e = scope.layer e.bindings := by
  cases e <;> rfl

theorem extended_concat (es : List Extension) (e : Extension) :
    extended (es ++ [e]) = (extended es).extend e := by
  rw [extended, List.foldl_append]
  rfl

/-- An extension shadows what it binds. -/
theorem get?_extend (scope : Scope) (e : Extension) (name : String) :
    (scope.extend e).get? name = (Fields.given? e.bindings name).or (scope.get? name) := by
  rw [extend_eq_layer, get?_layer, Fields.get?_ofList, Fields.given?_eq_get?_reverse]

/-- Only an extension without bindings makes no layer. -/
theorem ofList_eq_nil_iff {bindings : List (String × Value)} :
    Fields.ofList bindings = [] ↔ bindings = [] := by
  refine ⟨fun h => List.eq_nil_iff_forall_not_mem.2 fun b hb => ?_, fun h => by rw [h]; rfl⟩
  have hnone : Fields.get? bindings.reverse b.1 = none := by
    rw [← Fields.get?_ofList, h, Fields.get?_nil]
  exact Fields.get?_eq_none_iff.1 hnone b (List.mem_reverse.2 hb) rfl

theorem height_extend (scope : Scope) (e : Extension) :
    (scope.extend e).height = scope.height + if e.bindings.isEmpty then 0 else 1 := by
  rw [extend_eq_layer]
  by_cases h : e.bindings = []
  · have hsame : scope.layer e.bindings = scope := dif_pos (ofList_eq_nil_iff.2 h)
    rw [hsame, h]
    rfl
  · have hlayers : (scope.layer e.bindings).layers = Fields.ofList e.bindings :: scope.layers :=
      congrArg layers (dif_neg fun hnil => h (ofList_eq_nil_iff.1 hnil))
    rw [height, hlayers, List.length_cons, if_neg fun hempty => h (List.isEmpty_iff.1 hempty),
      height]

/-- The latest extension that binds a name counts. -/
theorem get?_extended (es : List Extension) (name : String) :
    (extended es).get? name = es.reverse.findSome? fun e => Fields.given? e.bindings name := by
  induction es using List.reverseRecOn with
  | nil => rfl
  | append_singleton es e ih =>
      rw [extended_concat, get?_extend, ih, List.reverse_concat, List.findSome?_cons]
      cases Fields.given? e.bindings name <;> rfl

theorem height_extended (es : List Extension) :
    (extended es).height = es.countP fun e => !e.bindings.isEmpty := by
  induction es using List.reverseRecOn with
  | nil => rfl
  | append_singleton es e ih =>
      rw [extended_concat, height_extend, ih, List.countP_append, List.countP_singleton]
      cases e.bindings.isEmpty <;> rfl

/-! ### The table of all bindings -/

/-- Layers put into one table from the outermost on give a name what the innermost of them does. -/
theorem get?_foldr_insertAll {layers : List (Fields Value)}
    (h : ∀ layer ∈ layers, Fields.Ordered layer) (name : String) :
    Fields.get? (layers.foldr (fun layer fs => Fields.insertAll layer fs) []) name =
      layers.findSome? fun layer => Fields.get? layer name := by
  induction layers with
  | nil => rfl
  | cons layer layers ih =>
      obtain ⟨hlayer, hlayers⟩ := List.forall_mem_cons.1 h
      rw [List.foldr_cons, Fields.get?_insertAll, Fields.get?_reverse hlayer.distinct, ih hlayers,
        List.findSome?_cons]
      cases Fields.get? layer name <;> rfl

/-- The table of all bindings gives a name what it stands for. -/
theorem get?_bindings (scope : Scope) (name : String) :
    Fields.get? scope.bindings name = scope.get? name :=
  get?_foldr_insertAll scope.ordered name

theorem ordered_bindings (scope : Scope) : Fields.Ordered scope.bindings := by
  rw [bindings]
  induction scope.layers with
  | nil => exact List.Pairwise.nil
  | cons layer layers ih => exact ih.insertAll layer

/-- The names in the table are those that stand for something. -/
theorem mem_keys_bindings_iff (scope : Scope) (name : String) :
    name ∈ Fields.keys scope.bindings ↔ scope.binds name = true := by
  rw [binds, ← get?_bindings, Option.isSome_iff_ne_none, Ne, Fields.get?_eq_none_iff, Fields.keys,
    List.mem_map]
  simp only [ne_eq, not_forall, not_not, exists_prop]

/-- Scopes with one table of bindings agree on every text. -/
theorem agreeOn_of_bindings_eq {s t : Scope} (h : s.bindings = t.bindings) (text : List Char) :
    s.AgreeOn t text := by
  intro name _
  rw [← get?_bindings, h, get?_bindings]

/-- **Extensions shadow each other, and nothing shows how bindings are spread over them.**  In a
scope that is built by extensions, a name stands for what the latest extension that binds it gives
it, and the scope is as high as there are extensions that bind anything.  The table of all bindings,
which is also the record of the scope, holds each name that stands for something once, with what it
stands for; and in any two scopes with one table every expression has the same value and every value
is filled alike. -/
theorem extended_shadows (es : List Extension) :
    (∀ name,
      (extended es).get? name = es.reverse.findSome? fun e => Fields.given? e.bindings name) ∧
    (extended es).height = es.countP (fun e => !e.bindings.isEmpty) ∧
    Fields.Ordered (extended es).bindings ∧
    (∀ name,
      (name ∈ Fields.keys (extended es).bindings ↔ (extended es).binds name = true) ∧
      Fields.get? (extended es).bindings name = (extended es).get? name ∧
      (extended es).toValue.get? name = (extended es).get? name) ∧
    ∀ s t : Scope, s.bindings = t.bindings →
      (∀ text, Expression.eval s text = Expression.eval t text) ∧
        ∀ v, Template.fill s v = Template.fill t v := by
  refine ⟨get?_extended es, height_extended es, ordered_bindings _, fun name => ?_, fun s t h => ?_⟩
  · exact ⟨mem_keys_bindings_iff _ name, get?_bindings _ name, get?_bindings _ name⟩
  · have hagree := agreeOn_of_bindings_eq h
    exact ⟨fun text => Expression.eval_congr (hagree text),
      fun v => Template.fill_congr fun e _ => hagree e⟩

/-- Extensions of which one binds a name twice, one binds nothing and one shadows a name. -/
def shadowing : List Extension :=
  [.layer [("x", .text "first"), ("y", .text "outer"), ("x", .text "last")], .layer [],
    .bind "y" .undefined]

/-- One layer with the same bindings. -/
def flat : Scope :=
  .ofValue (.record [("x", .text "last"), ("y", .undefined)])

/-- The two scopes differ in their height only; a name that is bound to `undefined` is bound. -/
theorem extended_shadows_shadowing :
    (extended shadowing).bindings = flat.bindings ∧ (extended shadowing).height = 2 ∧
      flat.height = 1 ∧ flat.binds "y" = true ∧
      Expression.eval (extended shadowing) "x === 'last'".toList =
        Expression.eval flat "x === 'last'".toList := by
  have hsame : (extended shadowing).bindings = flat.bindings := rfl
  have heval := ((extended_shadows shadowing).2.2.2.2 _ _ hsame).1
  exact ⟨hsame, rfl, rfl, rfl, heval _⟩

end Scope

end ViewTree
