import ViewTree.Proofs.Handler.Calls
import ViewTree.Proofs.Render.Reached
import ViewTree.Proofs.Text.Numerals

/-!
# Render — the elements of a surface

Without components of the host an element stands in a surface only where a node was reached that
has a name from the settings, so what a definition or the data in it can put into a surface is what
the settings admit.  The element is made in one place, `ownElements`; sequences, iterations,
directives and loaded data only decide which nodes are reached and in which scope.

* `Surface.mem_elements`: the elements of a surface are the components at any level of it.
* `mem_elements_iff`: they are those of the nodes that were reached.
* `elements_conform`: each of them conforms to the settings.
-/

namespace ViewTree

namespace Surface

/-- A component in a surface with all it is made of. -/
structure Element where
  component : String
  props : Fields Value
  handlers : Fields Handler
  children : List Surface

/-- The element that a surface is. -/
def ownElement? : Surface → Option Element
  | node component props handlers children => some ⟨component, props, handlers, children⟩
  | _ => none

/-- The elements at any level of a surface, each before those inside it. -/
def elements (s : Surface) : List Element :=
  s.preorder.filterMap ownElement?

theorem mem_elements {s : Surface} {e : Element} :
    e ∈ s.elements ↔ .node e.component e.props e.handlers e.children ∈ s.preorder := by
  rw [elements, List.mem_filterMap]
  constructor
  · rintro ⟨t, hm, ht⟩
    cases t with
    | node component props handlers children => cases ht; exact hm
    | _ => cases ht
  · exact fun h => ⟨_, h, rfl⟩

/-- What every element conforms to that is shown under some settings. -/
structure Element.Conforms (settings : Settings) (e : Element) : Prop where
  /-- The settings name it, or it is one of the default ones if they name none. -/
  admitted : e.component ∈ settings.elementNames.getD defaultElementNames
  /-- A small letter, then small letters and digits. -/
  spelled : ∃ first rest, e.component.toList = first :: rest ∧ ('a' ≤ first ∧ first ≤ 'z') ∧
    ∀ c ∈ rest, ('a' ≤ c ∧ c ≤ 'z') ∨ ('0' ≤ c ∧ c ≤ '9')
  not_conditional : e.component ≠ settings.conditionalName
  not_loader : e.component ≠ settings.dataLoaderName
  props : ∀ p ∈ e.props, p.1 ≠ childrenName ∧ ¬ settings.policy.bindsHandler p.1 = true
  handlers : ∀ p ∈ e.handlers, settings.policy.bindsHandler p.1 = true ∧ p.2.name = p.1 ∧
    (p.2.takesValue = true ↔ p.1 ∈ settings.policy.valueTakers) ∧
    (p.2.preventsDefault = true ↔ p.1 ∈ settings.policy.defaultPreventers)
  children : ∀ s ∈ e.children, s ≠ .empty ∧ ∀ items, s ≠ .fragment items

end Surface

namespace Template

theorem mem_fillFields {scope : Scope} {fields : Fields Value} {p : String × Value}
    (h : p ∈ fillFields scope fields) : ∃ v, (p.1, v) ∈ fields := by
  induction fields with
  | nil => cases h
  | cons f fs ih =>
      obtain ⟨name, v⟩ := f
      rcases List.mem_cons.1 h with rfl | h
      · exact ⟨v, .head _⟩
      · obtain ⟨w, hw⟩ := ih h
        exact ⟨w, .tail _ hw⟩

end Template

/-! ### Names -/

theorem le_of_isLower {c : Char} (h : c.isLower = true) : 'a' ≤ c ∧ c ≤ 'z' := by
  obtain ⟨hlow, hhigh⟩ := Bool.and_eq_true_iff.1 h
  exact ⟨of_decide_eq_true hlow, of_decide_eq_true hhigh⟩

theorem exists_of_isElementName {name : String} (h : isElementName name = true) :
    ∃ first rest, name.toList = first :: rest ∧ ('a' ≤ first ∧ first ≤ 'z') ∧
      ∀ c ∈ rest, ('a' ≤ c ∧ c ≤ 'z') ∨ ('0' ≤ c ∧ c ≤ '9') := by
  rw [isElementName] at h
  cases hn : name.toList with
  | nil => rw [hn] at h; cases h
  | cons first rest =>
      rw [hn] at h
      obtain ⟨hfirst, hrest⟩ := Bool.and_eq_true_iff.1 h
      refine ⟨first, rest, rfl, le_of_isLower hfirst, ?_⟩
      intro c hc
      rcases Bool.or_eq_true_iff.1 (List.all_eq_true.1 hrest c hc) with hl | hd
      · exact .inl (le_of_isLower hl)
      · exact .inr (Text.toNat_of_isDigit hd)

namespace Renderer

/-- A component that is shown as an element has a name that the settings admit, and is neither of
the directives. -/
theorem isElement_of_role {r : Renderer} {name : String} (h : r.role name = .element) :
    name ≠ r.settings.conditionalName ∧ name ≠ r.settings.dataLoaderName ∧
      r.settings.isElement name = true := by
  rw [role] at h
  split at h
  · cases h
  · next hconditional =>
      split at h
      · cases h
      · next hloader =>
          split at h
          · cases h
          · split at h
            · next he => exact ⟨hconditional, hloader, he⟩
            · cases h

/-! ### Props and handlers -/

theorem mem_withoutChildren {props : Fields Value} {p : String × Value}
    (h : p ∈ withoutChildren props) : p ∈ props ∧ p.1 ≠ childrenName := by
  obtain ⟨hm, hne⟩ := List.mem_filter.1 h
  exact ⟨hm, of_decide_eq_true hne⟩

theorem mem_valueProps {policy : Policy} {props : Fields Value} {scope : Scope}
    {p : String × Value} (h : p ∈ valueProps policy props scope) :
    p.1 ≠ childrenName ∧ ¬ policy.bindsHandler p.1 = true := by
  obtain ⟨v, hv⟩ := Template.mem_fillFields h
  obtain ⟨hm, hb⟩ := List.mem_filter.1 hv
  exact ⟨(mem_withoutChildren hm).2, by simpa using hb⟩

/-- A handler is bound in the scope of its node, from a prop of the node that the policy takes for
a handler. -/
theorem mem_handlerProps {policy : Policy} {props : Fields Value} {scope : Scope}
    {p : String × Handler} (h : p ∈ handlerProps policy props scope) :
    ∃ v d, (p.1, v) ∈ props ∧ policy.bindsHandler p.1 = true ∧ Descriptor.ofValue? v = some d ∧
      p.2 = Handler.bind policy scope p.1 d := by
  obtain ⟨v, d, hm, hd, hp⟩ := Handler.mem_bindAll_iff.1 h
  obtain ⟨hm, hb⟩ := List.mem_filter.1 hm
  exact ⟨v, d, (mem_withoutChildren hm).1, hb, hd, hp⟩

/-! ### Where elements come from -/

/-- The element that a node shows itself. -/
def ownElements (r : Renderer) (below : Below) (v : Value) (scope : Scope) :
    List Surface.Element :=
  match Node.ofValue v with
  | .component name props => match r.role name with
    | .element =>
      [⟨name, valueProps r.settings.policy props scope,
        handlerProps r.settings.policy props scope, children below props scope⟩]
    | _ => []
  | _ => []

theorem mem_ownElements {r : Renderer} {below : Below} {v : Value} {scope : Scope}
    {e : Surface.Element} (h : e ∈ ownElements r below v scope) :
    ∃ props, Node.ofValue v = .component e.component props ∧ r.role e.component = .element ∧
      e.props = valueProps r.settings.policy props scope ∧
      e.handlers = handlerProps r.settings.policy props scope ∧
      e.children = children below props scope := by
  rw [ownElements] at h
  cases hn : Node.ofValue v with
  | component name props =>
      simp only [hn] at h
      cases hrole : r.role name with
      | element =>
          simp only [hrole] at h
          cases List.mem_singleton.1 h
          exact ⟨props, rfl, hrole, rfl, rfl, rfl⟩
      | conditional | loader | hosted _ | unknown => simp only [hrole] at h; cases h
  | _ => simp only [hn] at h; cases h

theorem filterMap_ownElement?_shown (r : Renderer) (cache : Cache) (below : Below) (v : Value)
    (scope : Scope) :
    (shown r cache below v scope).filterMap Surface.ownElement? = ownElements r below v scope := by
  simp only [shown, ownElements]
  cases Node.ofValue v with
  | empty | scalar _ | malformed _ | sequence _ | iteration _ _ => rfl
  | text s =>
      simp only [leaf]
      split <;> rfl
  | component name props =>
      simp only
      cases r.role name with
      | loader => exact filterMap_loaderShown_eq_nil (fun _ => rfl) (fun _ => rfl) _ _ _ _
      | conditional | hosted _ | element | unknown => rfl

/-- The elements of a surface are those of the nodes that were reached. -/
theorem mem_elements_iff {settings : Settings} {cache : Cache} {levels : Nat} {v : Value}
    {scope : Scope} {e : Surface.Element} :
    e ∈ ((plain settings).renderAt cache levels v scope).elements ↔
      ∃ n u deep, Reaches (plain settings) cache levels v scope n u deep ∧
        e ∈ ownElements (plain settings) ((plain settings).renderAt cache n) u deep := by
  rw [Surface.elements, mem_filterMap_iff rfl (fun _ => rfl) fun _ => rfl]
  simp only [filterMap_ownElement?_shown]

/-! ### What the settings admit -/

theorem conforms_of_mem_ownElements {r : Renderer} {below : Below} {v : Value} {scope : Scope}
    {e : Surface.Element} (h : e ∈ ownElements r below v scope) : e.Conforms r.settings := by
  obtain ⟨props, -, hrole, hprops, hhandlers, hchildren⟩ := mem_ownElements h
  obtain ⟨hconditional, hloader, he⟩ := isElement_of_role hrole
  obtain ⟨hspelled, hnamed⟩ := Bool.and_eq_true_iff.1 he
  exact {
    admitted := List.contains_iff_mem.1 hnamed
    spelled := exists_of_isElementName hspelled
    not_conditional := hconditional
    not_loader := hloader
    props := fun p hp => mem_valueProps (hprops ▸ hp)
    handlers := by
      intro p hp
      obtain ⟨v, d, -, hb, -, hbound⟩ := mem_handlerProps (hhandlers ▸ hp)
      rw [hbound]
      exact ⟨hb, rfl, decide_eq_true_iff, decide_eq_true_iff⟩
    children := fun s hs => Surface.mem_asChildren _ (hchildren ▸ hs) }

/-- **Every element of a surface conforms to the settings**, at any level and whatever the
definition, the scope and the cache are. -/
theorem elements_conform (settings : Settings) (cache : Cache) (v : Value) (scope : Scope) :
    ∀ e ∈ ((plain settings).render cache v scope).elements, e.Conforms settings := by
  intro e he
  obtain ⟨n, u, deep, -, hu⟩ := mem_elements_iff.1 he
  exact conforms_of_mem_ownElements hu

/-- Settings under which a title is a handler, the children are listed as one and an element has
the name of a directive. -/
def crossedSettings : Settings :=
  { Settings.default with
    policy := ⟨Names.ofList ["children", "title"], Names.ofList ["title"]⟩
    conditionalName := "span" }

/-- An element with a title, and children at several levels. -/
def titled : Value :=
  .record [("div", .record [
    ("children", .list [.null, .list [.text "a", .record [("span", .text "b")]], .text "c"]),
    ("id", .text "{{id}}"), ("onClick", .text "open"), ("title", .text "rename")])]

theorem elements_conform_titled :
    ∃ e, e ∈ ((plain crossedSettings).render .empty titled .empty).elements ∧
      e.component = "div" ∧ Fields.keys e.props = ["id"] ∧
      Fields.keys e.handlers = ["onClick", "title"] ∧ e.children.length = 2 ∧
      e.Conforms crossedSettings := by
  have hall : ((plain crossedSettings).render .empty titled .empty).elements.map
      (fun e => (e.component, Fields.keys e.props, Fields.keys e.handlers, e.children.length)) =
        [("div", ["id"], ["onClick", "title"], 2)] := by
    decide +kernel
  obtain ⟨e, he, heq⟩ := List.mem_map.1 (hall ▸ List.mem_singleton_self _)
  simp only [Prod.mk.injEq] at heq
  obtain ⟨hcomponent, hprops, hhandlers, hchildren⟩ := heq
  exact ⟨e, he, hcomponent, hprops, hhandlers, hchildren,
    elements_conform crossedSettings .empty titled .empty e he⟩

end Renderer

end ViewTree
