import ViewTree.Proofs.Surface.Documents
import ViewTree.Proofs.Render.Visits
import ViewTree.Proofs.Template.Mentions

/-!
# Render — what a definition can read

A definition reads a scope through the names in its own expressions only.  Values that come out of
the scope, out of the cache or out of an expression are laid over the scope or spliced into the
surface, never filled again: if two scopes agree on the expressions of a definition, so do the
scopes of the nodes that it renders, and the documents of the two surfaces are equal.

* `Below.Confined`: nodes below read only what their own expressions mention.
* `confined_node`: a node whose parts are rendered that way is confined itself.
* `toJson_render_congr`: the same for a whole render.
-/

namespace ViewTree

/-! ### Handlers -/

namespace Handler

theorem capture_congr {s t : Scope} {v : Value} {d : Descriptor}
    (hd : Descriptor.ofValue? v = some d) (h : s.Agree t v.expressions) :
    capture s d = capture t d := by
  have hargs : d.arguments?.map (Template.fill s) = d.arguments?.map (Template.fill t) := by
    cases v with
    | text action => cases hd; rfl
    | record fields =>
        cases hd
        simp only [Descriptor.arguments?]
        cases ha : Fields.get? fields argsName with
        | none => rfl
        | some args =>
            have := Template.fill_congr (h.mono (Value.expressions_subset_of_get? ha))
            simp only [Option.map_some, this]
    | undefined | null | bool _ | number _ | list _ => cases hd
  rw [capture, capture, hargs]

/-- Handlers are written without their scope. -/
theorem handlersToJson_bindAll_congr (policy : Policy) {s t : Scope} {props : Fields Value}
    (h : s.Agree t (Value.fieldsExpressions props)) :
    Surface.handlersToJson (bindAll policy s props) =
      Surface.handlersToJson (bindAll policy t props) := by
  induction props with
  | nil => rfl
  | cons f fs ih =>
      obtain ⟨name, v⟩ := f
      have hv : s.Agree t v.expressions := h.mono (List.subset_append_left _ _)
      have hfs := ih (h.mono (List.subset_append_right _ _))
      rw [bindAll, bindAll] at hfs ⊢
      cases hd : Descriptor.ofValue? v with
      | none => simpa only [List.filterMap_cons, hd, Option.map_none] using hfs
      | some d =>
          simp only [List.filterMap_cons, hd, Option.map_some]
          rw [Surface.handlersToJson, Surface.handlersToJson, List.map_cons, List.map_cons]
          refine congr (congrArg List.cons ?_) hfs
          simp only [toJson, bind, capture_congr hd hv]

end Handler

namespace Renderer

/-! ### One level -/

/-- Nodes below read nothing but what their own expressions mention. -/
def Below.Confined (below : Below) : Prop :=
  ∀ v s t, s.Agree t v.expressions → (below v s).toJson = (below v t).toJson

section Level

variable {below : Below} (hb : Below.Confined below) {s t : Scope}

include hb

theorem optional_congr {node? : Option Value}
    (h : ∀ node, node? = some node → s.Agree t node.expressions) :
    (optional below s node?).toJson = (optional below t node?).toJson := by
  cases node? with
  | none => rfl
  | some node => exact hb node s t (h node rfl)

/-- The node in a prop, rendered. -/
theorem optional_get?_congr {props : Fields Value}
    (h : s.Agree t (Value.fieldsExpressions props)) (name : String) :
    (optional below s (Fields.get? props name)).toJson =
      (optional below t (Fields.get? props name)).toJson :=
  optional_congr hb fun _ hn => h.mono (Value.expressions_subset_of_get? hn)

theorem iterate_congr {source item : Value}
    (h : s.Agree t (source.expressions ++ item.expressions)) :
    (iterate below source item s).toJson = (iterate below source item t).toJson := by
  have hsource := Template.fill_congr (h.mono (List.subset_append_left _ _))
  have hitem : s.Agree t item.expressions := h.mono (List.subset_append_right _ _)
  rw [iterate, iterate, Surface.toJson, Surface.toJson, hsource, Surface.listToJson_eq,
    Surface.listToJson_eq, List.map_map, List.map_map]
  -- each element is laid over both scopes alike
  exact congrArg Json.array (List.map_congr_left fun p _ => hb item _ _ (hitem.layer _))

theorem conditional_congr {props : Fields Value}
    (h : s.Agree t (Value.fieldsExpressions props)) :
    (conditional below props s).toJson = (conditional below props t).toJson := by
  have hcondition : (Fields.get? props "condition").map (Template.fill s) =
      (Fields.get? props "condition").map (Template.fill t) := by
    cases hc : Fields.get? props "condition" with
    | none => rfl
    | some condition =>
        exact congrArg some
          (Template.fill_congr (h.mono (Value.expressions_subset_of_get? hc)))
  simp only [conditional, hcondition]
  exact optional_get?_congr hb h _

theorem load_congr (settings : Settings) (cache : Cache) {props : Fields Value}
    (h : s.Agree t (Value.fieldsExpressions props)) :
    (load settings cache below props s).toJson = (load settings cache below props t).toJson := by
  have hfilled : Template.fillFields s (withoutChildren props) =
      Template.fillFields t (withoutChildren props) :=
    Template.fillFields_congr (h.mono (Value.fieldsExpressions_filter _ props))
  simp only [load, hfilled]
  cases Request.ofProps settings.defaultLimit
      (Template.fillFields t (withoutChildren props)) with
  | error fault => rfl
  | ok request =>
      simp only
      cases cache.get? request.key with
      | none => rfl
      | some entry =>
          cases entry with
          | awaited => rfl
          | failed message => rfl
          -- the answer is laid over both scopes alike
          | ready answer => exact optional_get?_congr hb (h.layer _) _

theorem element_congr (policy : Policy) (name : String) {props : Fields Value}
    (h : s.Agree t (Value.fieldsExpressions props)) :
    (Surface.node name (valueProps policy props s) (handlerProps policy props s)
        (children below props s)).toJson =
      (Surface.node name (valueProps policy props t) (handlerProps policy props t)
        (children below props t)).toJson := by
  have hrest : s.Agree t (Value.fieldsExpressions (withoutChildren props)) :=
    h.mono (Value.fieldsExpressions_filter _ props)
  have hprops : valueProps policy props s = valueProps policy props t :=
    Template.fillFields_congr (hrest.mono (Value.fieldsExpressions_filter _ _))
  rw [hprops]
  refine Surface.toJson_node_congr (Handler.handlersToJson_bindAll_congr policy
    (hrest.mono (Value.fieldsExpressions_filter _ _))) ?_
  rw [children, children, Surface.listToJson_asChildren, Surface.listToJson_asChildren,
    optional_get?_congr hb h]

/-- A node reads nothing but what its own expressions mention, if the nodes below do. -/
theorem confined_node (settings : Settings) (cache : Cache) :
    Below.Confined ((plain settings).node cache below) := by
  intro v s t hv
  have h := hv.mono (Node.expressions_ofValue v)
  rw [node, node]
  cases hn : Node.ofValue v with
  | empty | scalar _ | malformed _ => rfl
  | text text =>
      rw [hn] at h
      simp only [Template.fillText_congr h]
  | sequence items =>
      rw [hn] at h
      simp only [Surface.toJson, Surface.listToJson_eq, List.map_map]
      exact congrArg Json.array (List.map_congr_left fun item hi =>
        hb item s t (h.mono (Value.expressions_subset_items hi)))
  | iteration source item =>
      rw [hn] at h
      exact iterate_congr hb h
  | component name props =>
      rw [hn] at h
      simp only [component]
      cases hrole : (plain settings).role name with
      | conditional => exact conditional_congr hb h
      | loader => exact load_congr hb _ cache h
      | hosted c => exact absurd hrole (role_plain settings name c)
      | element => exact element_congr hb _ name h
      | unknown => rfl

end Level

/-! ### A whole render -/

theorem confined_renderAt (settings : Settings) (cache : Cache) (levels : Nat) :
    Below.Confined ((plain settings).renderAt cache levels) := by
  induction levels with
  | zero => exact fun _ _ _ _ => rfl
  | succ levels ih => exact confined_node ih settings cache

/-- **A render reads only the names in the expressions of its definition.**  Two scopes that agree
on these names give surfaces with one document.  In particular a name that the definition does not
mention can stand for anything, whatever texts with the name in them come out of the scope, the
cache or an expression: such a text is never filled. -/
theorem toJson_render_congr (settings : Settings) (cache : Cache) (v : Value) (s t : Scope)
    (h : ∀ name, v.Mentions name → s.get? name = t.get? name) :
    ((plain settings).render cache v s).toJson = ((plain settings).render cache v t).toJson ∧
      ∀ name value, ¬ v.Mentions name →
        ((plain settings).render cache v (s.bind name value)).toJson =
          ((plain settings).render cache v s).toJson := by
  have hconfined := confined_renderAt settings cache (settings.maxDepth.toNat + 1)
  constructor
  · exact hconfined v s t (Scope.agree_iff.2 h)
  · intro name value hn
    refine hconfined v _ s (Scope.agree_iff.2 ?_)
    intro other ho
    have hne : name ≠ other := by
      rintro rfl
      exact hn ho
    exact s.get?_bind_of_ne value hne

/-- Each item, shown as it is. -/
def shownItems : Value :=
  .record [("for_each", .text "\x7b\x7bitems\x7d\x7d"),
    ("render_item", .text "\x7b\x7bitem\x7d\x7d")]

/-- One item, the text of which is a template for a secret. -/
def secretScope (secret : String) : Scope :=
  (Scope.empty.bind "items" (.list [.text "\x7b\x7bsecret\x7d\x7d"])).bind "secret" (.text secret)

theorem toJson_render_congr_secret :
    (∀ name, shownItems.Mentions name →
      (secretScope "a").get? name = (secretScope "b").get? name) ∧
    ((plain .default).render .empty shownItems (secretScope "a")).toJson =
      ((plain .default).render .empty shownItems (secretScope "b")).toJson := by
  have h : ∀ name, shownItems.Mentions name →
      (secretScope "a").get? name = (secretScope "b").get? name := by
    intro name hn
    have hne : "secret" ≠ name := by
      rintro rfl
      exact absurd hn (by decide +kernel)
    rw [secretScope, secretScope, Scope.get?_bind_of_ne _ _ hne, Scope.get?_bind_of_ne _ _ hne]
  exact ⟨h, (toJson_render_congr .default .empty shownItems _ _ h).1⟩

example :
    ((plain .default).render .empty shownItems (secretScope "a")).content =
      "\x7b\x7bsecret\x7d\x7d" := by
  decide +kernel

end Renderer

end ViewTree
