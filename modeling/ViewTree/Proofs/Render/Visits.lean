import ViewTree.Proofs.Cache.Claiming
import ViewTree.Proofs.Surface.Views
import ViewTree.Render.Basic

/-!
# Render — the nodes that a node renders

Rendering a node renders some of its parts one level below, each in a scope of its own, and may
show something itself or wait for a request.  Which ones depends on the cache only if the node is a
data loader.

* `filterMap_node_eq`: without components of the host, a view of a surface sees what its own node
  shows, then what the nodes show that it renders.
* `requests_node_eq`: so it waits for the requests of its own node, then for those of the nodes
  that it renders.
* `mem_parts_of_mem_visits`: what is rendered stands in the definition.
* `mem_visits_of_later`, `ownRequests_of_later`: what a cache that knows more changes about it.
-/

namespace ViewTree.Renderer

/-! ### Data loaders -/

/-- A loader of one record, with its children. -/
def loaderOf (id : String) (children : Value) : Value :=
  .record [("DataLoader", .record [("children", children), ("id", .text id)])]

/-- The request of a loader, if its props are one. -/
def loaderRequest? (settings : Settings) (props : Fields Value) (scope : Scope) : Option Request :=
  match Request.ofProps settings.defaultLimit
      (Template.fillFields scope (withoutChildren props)) with
  | .ok request => some request
  | .error _ => none

/-- What a loader waits for: its request, unless it is settled. -/
def loaderRequests (settings : Settings) (cache : Cache) (props : Fields Value) (scope : Scope) :
    List Request :=
  match loaderRequest? settings props scope with
  | none => []
  | some request => match cache.get? request.key with
    | none => [request]
    | some .awaited => [request]
    | some (.failed _) => []
    | some (.ready _) => []

/-- What a loader renders: its children with the answer in scope, once there is one. -/
def loaderVisits (settings : Settings) (cache : Cache) (props : Fields Value) (scope : Scope) :
    List (Value × Scope) :=
  match loaderRequest? settings props scope with
  | none => []
  | some request => match cache.get? request.key with
    | some (.ready answer) =>
      (Fields.get? props childrenName).toList.map fun node =>
        (node, scope.bind (answerName (Template.fillFields scope (withoutChildren props))) answer)
    | _ => []

/-- What a loader shows in place of its children, while there is no answer. -/
def loaderShown (settings : Settings) (cache : Cache) (props : Fields Value) (scope : Scope) :
    List Surface :=
  match Request.ofProps settings.defaultLimit
      (Template.fillFields scope (withoutChildren props)) with
  | .error fault => [.noData fault.message]
  | .ok request => match cache.get? request.key with
    | none => [.loading request]
    | some .awaited => [.loading request]
    | some (.failed message) => [.noData message]
    | some (.ready _) => []

/-! ### Nodes -/

/-- Whether a node is a data loader. -/
def isLoader (r : Renderer) (v : Value) : Bool :=
  match Node.ofValue v with
  | .component name _ => match r.role name with
    | .loader => true
    | _ => false
  | _ => false

/-- The parts of a node definition that are nodes, one level below. -/
def parts (r : Renderer) (v : Value) : List Value :=
  match Node.ofValue v with
  | .sequence items => items
  | .iteration _ item => [item]
  | .component name props => match r.role name with
    | .conditional => (Fields.get? props "render").toList ++ (Fields.get? props "else").toList
    | .unknown => []
    | _ => (Fields.get? props childrenName).toList
  | _ => []

/-- The request whose entry a node reads itself. -/
def lookup? (r : Renderer) (v : Value) (scope : Scope) : Option Request :=
  match Node.ofValue v with
  | .component name props => match r.role name with
    | .loader => loaderRequest? r.settings props scope
    | _ => none
  | _ => none

/-- The requests that a node waits for itself. -/
def ownRequests (r : Renderer) (cache : Cache) (v : Value) (scope : Scope) : List Request :=
  match Node.ofValue v with
  | .component name props => match r.role name with
    | .loader => loaderRequests r.settings cache props scope
    | _ => []
  | _ => []

/-- The nodes that a node renders one level below, each with its scope. -/
def visits (r : Renderer) (cache : Cache) (v : Value) (scope : Scope) : List (Value × Scope) :=
  match Node.ofValue v with
  | .sequence items => items.map fun item => (item, scope)
  | .iteration source item =>
    (elements (Template.fill scope source)).zipIdx.map fun (v, i) => (item, elementScope scope v i)
  | .component name props => match r.role name with
    | .conditional =>
      let condition := ((Fields.get? props "condition").map (Template.fill scope)).getD .undefined
      (Fields.get? props (if condition.holds then "render" else "else")).toList.map fun node =>
        (node, scope)
    | .loader => loaderVisits r.settings cache props scope
    | .unknown => []
    | _ => (Fields.get? props childrenName).toList.map fun node => (node, scope)
  | _ => []

/-- What a node shows itself, besides the nodes that it renders. -/
def shown (r : Renderer) (cache : Cache) (below : Below) (v : Value) (scope : Scope) :
    List Surface :=
  match Node.ofValue v with
  | .text s => [leaf (Template.fillText scope s)]
  | .scalar v => [.text v.display]
  | .malformed why => [.malformed why.describe]
  | .component name props => match r.role name with
    | .loader => loaderShown r.settings cache props scope
    | .element =>
      [.node name (valueProps r.settings.policy props scope)
        (handlerProps r.settings.policy props scope) (children below props scope)]
    | .unknown => [.unknown name]
    | _ => []
  | _ => []

/-! ### What a view of a surface sees -/

theorem get?_of_role_eq_hosted {r : Renderer} {name : String} {c : HostComponent}
    (h : r.role name = .hosted c) : Fields.get? r.hostComponents name = some c := by
  rw [role] at h
  split at h
  · cases h
  · split at h
    · cases h
    · cases hc : Fields.get? r.hostComponents name with
      | some c => simp only [hc] at h; cases h; rfl
      | none =>
          simp only [hc] at h
          split at h <;> cases h

theorem role_plain (settings : Settings) (name : String) (c : HostComponent) :
    (plain settings).role name ≠ .hosted c :=
  fun h => nomatch get?_of_role_eq_hosted h

section Views

variable {α : Type} {f : Surface → Option α} (hempty : f .empty = none)

theorem preorder_leaf (v : Value) : (leaf v).preorder = [leaf v] := by
  rw [leaf]
  split <;> rfl

/-- A view that picks no marker of a loader sees nothing that a loader shows itself. -/
theorem filterMap_loaderShown_eq_nil (hloading : ∀ request, f (.loading request) = none)
    (hnoData : ∀ message, f (.noData message) = none) (settings : Settings) (cache : Cache)
    (props : Fields Value) (scope : Scope) :
    (loaderShown settings cache props scope).filterMap f = [] := by
  rw [loaderShown]
  split
  · exact List.filterMap_cons_none (hnoData _)
  · split
    · exact List.filterMap_cons_none (hloading _)
    · exact List.filterMap_cons_none (hloading _)
    · exact List.filterMap_cons_none (hnoData _)
    · rfl

include hempty

theorem filterMap_optional (below : Below) (scope : Scope) (node? : Option Value) :
    (optional below scope node?).preorder.filterMap f =
      (node?.toList.map fun node => (node, scope)).flatMap fun w =>
        (below w.1 w.2).preorder.filterMap f := by
  cases node? with
  | none => exact List.filterMap_cons_none hempty
  | some node => exact (List.append_nil _).symm

theorem filterMap_load (settings : Settings) (cache : Cache) (below : Below)
    (props : Fields Value) (scope : Scope) :
    (load settings cache below props scope).preorder.filterMap f =
      (loaderShown settings cache props scope).filterMap f ++
        (loaderVisits settings cache props scope).flatMap fun w =>
          (below w.1 w.2).preorder.filterMap f := by
  simp only [load, loaderShown, loaderVisits, loaderRequest?]
  cases Request.ofProps settings.defaultLimit
      (Template.fillFields scope (withoutChildren props)) with
  | error fault => exact (List.append_nil _).symm
  | ok request =>
      simp only
      cases cache.get? request.key with
      | none => exact (List.append_nil _).symm
      | some entry =>
          cases entry with
          | awaited | failed message => exact (List.append_nil _).symm
          | ready answer => exact filterMap_optional hempty _ _ _

/-- **A view of a surface sees what its own node shows, then what the nodes below show.**  This
holds of every view that picks neither empties nor fragments. -/
theorem filterMap_node_eq (hfragment : ∀ ss, f (.fragment ss) = none) (settings : Settings)
    (cache : Cache) (below : Below) (v : Value) (scope : Scope) :
    ((plain settings).node cache below v scope).preorder.filterMap f =
      (shown (plain settings) cache below v scope).filterMap f ++
        (visits (plain settings) cache v scope).flatMap fun w =>
          (below w.1 w.2).preorder.filterMap f := by
  simp only [node, shown, visits]
  cases Node.ofValue v with
  | empty => exact List.filterMap_cons_none hempty
  | scalar _ | malformed _ => exact (List.append_nil _).symm
  | text s =>
      rw [preorder_leaf]
      exact (List.append_nil _).symm
  | sequence items =>
      rw [Surface.filterMap_fragment f hfragment, List.flatMap_map, List.flatMap_map]
      rfl
  | iteration source item =>
      simp only [iterate, Surface.filterMap_fragment f hfragment, List.flatMap_map]
      rfl
  | component name props =>
      simp only [component]
      cases hrole : (plain settings).role name with
      | conditional => exact filterMap_optional hempty _ _ _
      | loader => exact filterMap_load hempty _ _ _ _ _
      | hosted c => exact absurd hrole (role_plain settings name c)
      | element =>
          simp only [Surface.filterMap_node, children,
            Surface.filterMap_asChildren f hempty hfragment]
          exact congrArg _ (filterMap_optional hempty _ _ _)
      | unknown => exact (List.append_nil _).symm

end Views

/-! ### What a surface waits for -/

theorem filterMap_ownRequest?_loaderShown (settings : Settings) (cache : Cache)
    (props : Fields Value) (scope : Scope) :
    (loaderShown settings cache props scope).filterMap Surface.ownRequest? =
      loaderRequests settings cache props scope := by
  simp only [loaderShown, loaderRequests, loaderRequest?]
  cases Request.ofProps settings.defaultLimit
      (Template.fillFields scope (withoutChildren props)) with
  | error fault => rfl
  | ok request =>
      simp only
      cases cache.get? request.key with
      | none => rfl
      | some entry => cases entry <;> rfl

theorem filterMap_ownRequest?_shown (settings : Settings) (cache : Cache) (below : Below)
    (v : Value) (scope : Scope) :
    (shown (plain settings) cache below v scope).filterMap Surface.ownRequest? =
      ownRequests (plain settings) cache v scope := by
  simp only [shown, ownRequests]
  cases Node.ofValue v with
  | empty | scalar _ | malformed _ | sequence _ | iteration _ _ => rfl
  | text s =>
      simp only [leaf]
      split <;> rfl
  | component name props =>
      simp only
      cases (plain settings).role name with
      | loader => exact filterMap_ownRequest?_loaderShown _ _ _ _
      | conditional | hosted _ | element | unknown => rfl

/-- A surface waits for the requests of its own node, then for those of the nodes below. -/
theorem requests_node_eq (settings : Settings) (cache : Cache) (below : Below) (v : Value)
    (scope : Scope) :
    ((plain settings).node cache below v scope).requests =
      ownRequests (plain settings) cache v scope ++
        (visits (plain settings) cache v scope).flatMap fun w => (below w.1 w.2).requests := by
  rw [Surface.requests, filterMap_node_eq rfl fun _ => rfl, filterMap_ownRequest?_shown]
  rfl

/-! ### Loaders and other nodes -/

theorem isLoader_iff {r : Renderer} {v : Value} :
    r.isLoader v = true ↔
      ∃ name props, Node.ofValue v = .component name props ∧ r.role name = .loader := by
  rw [isLoader]
  constructor
  · intro h
    cases hn : Node.ofValue v with
    | component name props =>
        simp only [hn] at h
        cases hrole : r.role name with
        | loader => exact ⟨name, props, rfl, hrole⟩
        | conditional | hosted _ | element | unknown => simp only [hrole] at h; cases h
    | _ => simp only [hn] at h; cases h
  · rintro ⟨name, props, hn, hrole⟩
    simp only [hn, hrole]

section Loader

variable {r : Renderer} {v : Value} {name : String} {props : Fields Value}
  (hn : Node.ofValue v = .component name props) (hrole : r.role name = .loader)

include hn hrole

theorem ownRequests_of_loader (cache : Cache) (scope : Scope) :
    ownRequests r cache v scope = loaderRequests r.settings cache props scope := by
  simp only [ownRequests, hn, hrole]

theorem lookup?_of_loader (scope : Scope) :
    r.lookup? v scope = loaderRequest? r.settings props scope := by
  simp only [lookup?, hn, hrole]

theorem visits_of_loader (cache : Cache) (scope : Scope) :
    visits r cache v scope = loaderVisits r.settings cache props scope := by
  simp only [visits, hn, hrole]

end Loader

theorem isLoader_of_lookup? {r : Renderer} {v : Value} {scope : Scope} {request : Request}
    (h : r.lookup? v scope = some request) : r.isLoader v = true := by
  rw [lookup?] at h
  cases hn : Node.ofValue v with
  | component name props =>
      cases hrole : r.role name with
      | loader => exact isLoader_iff.2 ⟨name, props, hn, hrole⟩
      | conditional | hosted _ | element | unknown => simp only [hn, hrole] at h; cases h
  | _ => simp only [hn] at h; cases h

theorem ownRequests_of_not_loader {r : Renderer} {v : Value} (h : ¬ r.isLoader v = true)
    (cache : Cache) (scope : Scope) : ownRequests r cache v scope = [] := by
  rw [ownRequests]
  cases hn : Node.ofValue v with
  | component name props =>
      cases hrole : r.role name with
      | loader => exact absurd (isLoader_iff.2 ⟨name, props, hn, hrole⟩) h
      | conditional | hosted _ | element | unknown => simp only [hrole]
  | _ => rfl

/-- What a node renders depends on the cache only if it is a loader. -/
theorem visits_of_not_loader {r : Renderer} {v : Value} (h : ¬ r.isLoader v = true)
    (cache after : Cache) (scope : Scope) : visits r after v scope = visits r cache v scope := by
  rw [visits, visits]
  cases hn : Node.ofValue v with
  | component name props =>
      cases hrole : r.role name with
      | loader => exact absurd (isLoader_iff.2 ⟨name, props, hn, hrole⟩) h
      | conditional | hosted _ | element | unknown => simp only [hrole]
  | _ => rfl

/-! ### What is rendered stands in the definition -/

theorem isLoader_of_mem_ownRequests {r : Renderer} {cache : Cache} {v : Value} {scope : Scope}
    {request : Request} (h : request ∈ ownRequests r cache v scope) : r.isLoader v = true := by
  by_cases hl : r.isLoader v = true
  · exact hl
  · rw [ownRequests_of_not_loader hl] at h
    cases h

theorem mem_of_mem_loaderVisits {settings : Settings} {cache : Cache} {props : Fields Value}
    {scope inner : Scope} {w : Value} (h : (w, inner) ∈ loaderVisits settings cache props scope) :
    w ∈ (Fields.get? props childrenName).toList := by
  rw [loaderVisits] at h
  split at h
  · cases h
  · split at h
    · obtain ⟨node, hm, heq⟩ := List.mem_map.1 h
      cases heq
      exact hm
    · cases h

/-- A node renders nothing but parts of its definition. -/
theorem mem_parts_of_mem_visits {r : Renderer} {cache : Cache} {v w : Value} {scope inner : Scope}
    (h : (w, inner) ∈ visits r cache v scope) : w ∈ r.parts v := by
  rw [visits] at h
  rw [parts]
  cases hn : Node.ofValue v with
  | sequence items =>
      simp only [hn] at h ⊢
      obtain ⟨item, hm, heq⟩ := List.mem_map.1 h
      cases heq
      exact hm
  | iteration source item =>
      simp only [hn] at h ⊢
      obtain ⟨p, -, heq⟩ := List.mem_map.1 h
      cases heq
      exact .head _
  | component name props =>
      simp only [hn] at h ⊢
      cases hrole : r.role name with
      | conditional =>
          simp only [hrole] at h ⊢
          obtain ⟨node, hm, heq⟩ := List.mem_map.1 h
          cases heq
          split at hm
          · exact List.mem_append_left _ hm
          · exact List.mem_append_right _ hm
      | loader =>
          simp only [hrole] at h ⊢
          exact mem_of_mem_loaderVisits h
      | unknown => simp only [hrole] at h; cases h
      | hosted _ | element =>
          simp only [hrole] at h ⊢
          obtain ⟨node, hm, heq⟩ := List.mem_map.1 h
          cases heq
          exact hm
  | _ => simp only [hn] at h; cases h

/-! ### When the cache knows more -/

section Answer

variable {settings : Settings} {cache : Cache} {props : Fields Value} {scope : Scope}
  {request : Request} (hr : loaderRequest? settings props scope = some request)

include hr

/-- A loader whose request is settled waits for nothing. -/
theorem loaderRequests_of_settled (hs : cache.Settled request.key) :
    loaderRequests settings cache props scope = [] := by
  obtain ⟨entry, he, hne⟩ := hs
  simp only [loaderRequests, hr, he]
  cases entry with
  | awaited => exact absurd rfl hne
  | ready v => rfl
  | failed message => rfl

/-- A loader whose request is open waits for it and renders nothing. -/
theorem loader_of_not_settled (hs : ¬ cache.Settled request.key) :
    loaderRequests settings cache props scope = [request] ∧
      loaderVisits settings cache props scope = [] := by
  simp only [loaderRequests, loaderVisits, hr]
  rcases cache.get?_cases request.key with hn | ha | h
  · exact ⟨by rw [hn], by rw [hn]⟩
  · exact ⟨by rw [ha], by rw [ha]⟩
  · exact absurd h hs

theorem loaderVisits_congr {after : Cache} (h : after.get? request.key = cache.get? request.key) :
    loaderVisits settings after props scope = loaderVisits settings cache props scope := by
  simp only [loaderVisits, hr, h]

end Answer

/-- A node waits for the request that it reads, unless that is settled. -/
theorem mem_ownRequests_iff {r : Renderer} {cache : Cache} {v : Value} {scope : Scope}
    {request : Request} :
    request ∈ ownRequests r cache v scope ↔
      r.lookup? v scope = some request ∧ ¬ cache.Settled request.key := by
  by_cases hl : r.isLoader v = true
  · obtain ⟨name, props, hn, hrole⟩ := isLoader_iff.1 hl
    rw [ownRequests_of_loader hn hrole, lookup?_of_loader hn hrole]
    cases hr : loaderRequest? r.settings props scope with
    | none => simp only [loaderRequests, hr, List.not_mem_nil, reduceCtorEq, false_and]
    | some q =>
        rw [Option.some_inj]
        by_cases hs : cache.Settled q.key
        · rw [loaderRequests_of_settled hr hs]
          exact ⟨nofun, fun ⟨he, hns⟩ => absurd (he ▸ hs) hns⟩
        · rw [(loader_of_not_settled hr hs).1, List.mem_singleton]
          exact ⟨fun he => ⟨he.symm, he ▸ hs⟩, fun ⟨he, _⟩ => he.symm⟩
  · rw [ownRequests_of_not_loader hl]
    exact ⟨nofun, fun ⟨h, _⟩ => absurd (isLoader_of_lookup? h) hl⟩

/-- A node waits for nothing that is settled. -/
theorem not_settled_of_mem_ownRequests {r : Renderer} {cache : Cache} {v : Value} {scope : Scope}
    {request : Request} (h : request ∈ ownRequests r cache v scope) :
    ¬ cache.Settled request.key :=
  (mem_ownRequests_iff.1 h).2

/-- Once the requests of a node are settled it waits for none. -/
theorem ownRequests_of_later {r : Renderer} {cache after : Cache} {v : Value} {scope : Scope}
    (hkeep : cache.Keeps after)
    (hsettled : ∀ request ∈ ownRequests r cache v scope, after.Settled request.key) :
    ownRequests r after v scope = [] := by
  by_cases hl : r.isLoader v = true
  · obtain ⟨name, props, hn, hrole⟩ := isLoader_iff.1 hl
    rw [ownRequests_of_loader hn hrole] at hsettled ⊢
    cases hr : loaderRequest? r.settings props scope with
    | none => rw [loaderRequests, hr]
    | some q =>
        refine loaderRequests_of_settled hr ?_
        -- the request was settled before, or it was waited for and is settled now
        by_cases hs : cache.Settled q.key
        · exact hs.congr (hkeep _ hs)
        · exact hsettled q ((loader_of_not_settled hr hs).1 ▸ .head _)
  · exact ownRequests_of_not_loader hl after scope

/-- What a node renders later it renders already, unless it is a loader that still waits. -/
theorem mem_visits_of_later {r : Renderer} {cache after : Cache} {v : Value} {scope : Scope}
    {w : Value × Scope} (hkeep : cache.Keeps after) (h : w ∈ visits r after v scope) :
    w ∈ visits r cache v scope ∨ r.isLoader v = true ∧ ∃ q, q ∈ ownRequests r cache v scope := by
  by_cases hl : r.isLoader v = true
  · obtain ⟨name, props, hn, hrole⟩ := isLoader_iff.1 hl
    rw [visits_of_loader hn hrole] at h ⊢
    rw [ownRequests_of_loader hn hrole]
    cases hr : loaderRequest? r.settings props scope with
    | none => rw [loaderVisits, hr] at h; cases h
    | some q =>
        by_cases hs : cache.Settled q.key
        · exact .inl (loaderVisits_congr hr (hkeep _ hs) ▸ h)
        · exact .inr ⟨hl, q, (loader_of_not_settled hr hs).1 ▸ .head _⟩
  · exact .inl (visits_of_not_loader hl cache after scope ▸ h)

end ViewTree.Renderer
