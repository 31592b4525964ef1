import ViewTree.Proofs.Render.Visits

/-!
# Render — the nodes that are reached and the entries that are read

In the course of rendering a node others are reached, each in a scope of its own and with some
levels left below it (`Reaches`).  What a surface shows is shown by one of them, and the only
entries of the cache that the render reads are those of the loaders among them (`Reads`).

* `mem_filterMap_iff`: without components of the host, a view of a surface sees what the nodes show
  that were reached.
* `renderAt_eq_of_agree`: caches that agree on what a render reads give the same surface.
* `mem_requests_iff_reads`: a surface waits for what was read and is not settled.
-/

namespace ViewTree.Renderer

/-- A node is reached in a scope, with some levels left below it, in the course of rendering
another one. -/
inductive Reaches (r : Renderer) (cache : Cache) :
    Nat → Value → Scope → Nat → Value → Scope → Prop where
  | here (levels : Nat) (v : Value) (scope : Scope) :
      Reaches r cache (levels + 1) v scope levels v scope
  | deeper {levels n : Nat} {v w u : Value} {scope inner deep : Scope}
      (h : (w, inner) ∈ visits r cache v scope) (t : Reaches r cache levels w inner n u deep) :
      Reaches r cache (levels + 1) v scope n u deep

/-! ### What a view sees -/

/-- **A view of a surface sees what the nodes show that were reached.**  This holds of every view
that picks neither empties nor fragments nor nodes that lie too deep. -/
theorem mem_filterMap_iff {α : Type} {f : Surface → Option α} (hempty : f .empty = none)
    (hfragment : ∀ ss, f (.fragment ss) = none) (hdeep : ∀ limit, f (.tooDeep limit) = none)
    {settings : Settings} {cache : Cache} {levels : Nat} {v : Value} {scope : Scope} {a : α} :
    a ∈ ((plain settings).renderAt cache levels v scope).preorder.filterMap f ↔
      ∃ n u deep, Reaches (plain settings) cache levels v scope n u deep ∧
        a ∈ (shown (plain settings) cache ((plain settings).renderAt cache n) u deep).filterMap
          f := by
  induction levels generalizing v scope with
  | zero =>
      constructor
      · intro h
        obtain ⟨s, hm, hs⟩ := List.mem_filterMap.1 h
        cases List.mem_singleton.1 hm
        exact nomatch (hdeep _).symm.trans hs
      · rintro ⟨n, u, deep, h, -⟩
        cases h
  | succ levels ih =>
      rw [renderAt, filterMap_node_eq hempty hfragment, List.mem_append, List.mem_flatMap]
      constructor
      · rintro (h | ⟨⟨w, inner⟩, hw, h⟩)
        · exact ⟨levels, v, scope, .here levels v scope, h⟩
        · obtain ⟨n, u, deep, t, hu⟩ := ih.1 h
          exact ⟨n, u, deep, .deeper hw t, hu⟩
      · rintro ⟨n, u, deep, h, hu⟩
        cases h with
        | here => exact .inl hu
        | deeper hw t => exact .inr ⟨_, hw, ih.2 ⟨n, u, deep, t, hu⟩⟩

/-! ### What a render reads -/

/-- A render reads the entry of a request: that of a loader that it reaches. -/
def Reads (r : Renderer) (cache : Cache) (levels : Nat) (v : Value) (scope : Scope)
    (request : Request) : Prop :=
  ∃ n u deep, Reaches r cache levels v scope n u deep ∧ r.lookup? u deep = some request

theorem optional_eq_of_agree {below other : Below} {scope : Scope} {node? : Option Value}
    (h : ∀ w ∈ node?.toList.map fun node => (node, scope), other w.1 w.2 = below w.1 w.2) :
    optional other scope node? = optional below scope node? := by
  cases node? with
  | none => rfl
  | some node => exact h _ (.head _)

theorem load_eq_of_agree {settings : Settings} {cache after : Cache} {below other : Below}
    {props : Fields Value} {scope : Scope}
    (hentry : ∀ request, loaderRequest? settings props scope = some request →
      after.get? request.key = cache.get? request.key)
    (hbelow : ∀ w ∈ loaderVisits settings cache props scope, other w.1 w.2 = below w.1 w.2) :
    load settings after other props scope = load settings cache below props scope := by
  simp only [loaderRequest?, loaderVisits] at hentry hbelow
  simp only [load]
  cases hr : Request.ofProps settings.defaultLimit
      (Template.fillFields scope (withoutChildren props)) with
  | error fault => rfl
  | ok request =>
      simp only [hr] at hentry hbelow ⊢
      rw [hentry request rfl]
      cases hg : cache.get? request.key with
      | none => rfl
      | some entry =>
          cases entry with
          | awaited | failed message => rfl
          | ready answer =>
              simp only [hg] at hbelow ⊢
              exact optional_eq_of_agree hbelow

/-- What a node renders to depends on the entry that it reads and on the nodes that it renders. -/
theorem node_eq_of_agree {r : Renderer} {cache after : Cache} {below other : Below} {v : Value}
    {scope : Scope}
    (hentry : ∀ request, r.lookup? v scope = some request →
      after.get? request.key = cache.get? request.key)
    (hbelow : ∀ w ∈ visits r cache v scope, other w.1 w.2 = below w.1 w.2) :
    r.node after other v scope = r.node cache below v scope := by
  simp only [lookup?, visits] at hentry hbelow
  simp only [node]
  cases hn : Node.ofValue v with
  | empty | text _ | scalar _ | malformed _ => rfl
  | sequence _ | iteration _ _ =>
      simp only [hn, List.forall_mem_map] at hbelow ⊢
      exact congrArg Surface.fragment (List.map_congr_left hbelow)
  | component name props =>
      simp only [hn, component] at hentry hbelow ⊢
      cases hrole : r.role name with
      | conditional =>
          simp only [hrole] at hbelow ⊢
          exact optional_eq_of_agree hbelow
      | loader =>
          simp only [hrole] at hentry hbelow ⊢
          exact load_eq_of_agree hentry hbelow
      | hosted c =>
          simp only [hrole] at hbelow ⊢
          rw [hosted, hosted, children, children, optional_eq_of_agree hbelow]
      | element =>
          simp only [hrole] at hbelow ⊢
          rw [children, children, optional_eq_of_agree hbelow]
      | unknown => rfl

/-- **A render depends on nothing but what it reads.**  Caches that agree on the entries that one
of them is read for give the same surface. -/
theorem renderAt_eq_of_agree {r : Renderer} {cache after : Cache} {levels : Nat} {v : Value}
    {scope : Scope}
    (h : ∀ request, Reads r cache levels v scope request →
      after.get? request.key = cache.get? request.key) :
    r.renderAt after levels v scope = r.renderAt cache levels v scope := by
  induction levels generalizing v scope with
  | zero => rfl
  | succ levels ih =>
      refine node_eq_of_agree (fun request hr => h request ⟨_, _, _, .here levels v scope, hr⟩) ?_
      rintro ⟨w, inner⟩ hw
      refine ih fun request hr => h request ?_
      obtain ⟨n, u, deep, t, hu⟩ := hr
      exact ⟨n, u, deep, .deeper hw t, hu⟩

/-! ### What a surface waits for -/

/-- **A surface waits for what was read and is not settled.** -/
theorem mem_requests_iff_reads {settings : Settings} {cache : Cache} {levels : Nat} {v : Value}
    {scope : Scope} {request : Request} :
    request ∈ ((plain settings).renderAt cache levels v scope).requests ↔
      Reads (plain settings) cache levels v scope request ∧ ¬ cache.Settled request.key := by
  rw [Surface.requests, mem_filterMap_iff rfl (fun _ => rfl) fun _ => rfl]
  simp only [filterMap_ownRequest?_shown, mem_ownRequests_iff]
  constructor
  · rintro ⟨n, u, deep, h, hu, hs⟩
    exact ⟨⟨n, u, deep, h, hu⟩, hs⟩
  · rintro ⟨⟨n, u, deep, h, hu⟩, hs⟩
    exact ⟨n, u, deep, h, hu, hs⟩

/-- Entries that are neither settled nor waited for may change in any way. -/
theorem render_eq_of_agree {settings : Settings} {cache after : Cache} {v : Value} {scope : Scope}
    (h : ∀ key, after.get? key = cache.get? key ∨ ¬ cache.Settled key ∧
      key ∉ Request.keys ((plain settings).render cache v scope).requests) :
    (plain settings).render after v scope = (plain settings).render cache v scope := by
  refine renderAt_eq_of_agree fun request hr => ?_
  rcases h request.key with he | ⟨hs, hk⟩
  · exact he
  -- an entry that is read and not settled is waited for
  · exact absurd (List.mem_map_of_mem (mem_requests_iff_reads.2 ⟨hr, hs⟩)) hk

/-- **A surface waits for exactly what it lacks.**  Without components of the host, what it waits
for is free or awaited.  A key that is free or awaited and not waited for has no bearing on the
surface, whatever is put under it or taken from it.  And once all that is waited for is settled,
none of it is waited for any more. -/
theorem requests_exact (settings : Settings) (v : Value) (scope : Scope) (cache : Cache) :
    (∀ request ∈ ((plain settings).render cache v scope).requests,
      cache.get? request.key = none ∨ cache.get? request.key = some .awaited) ∧
    (∀ key, cache.get? key = none ∨ cache.get? key = some .awaited →
      key ∉ Request.keys ((plain settings).render cache v scope).requests →
        (∀ entry, (plain settings).render (cache.insert key entry) v scope =
          (plain settings).render cache v scope) ∧
        (plain settings).render (cache.forget key) v scope =
          (plain settings).render cache v scope) ∧
    ∀ after : Cache,
      (∀ request ∈ ((plain settings).render cache v scope).requests,
        after.Settled request.key) →
      ∀ request ∈ ((plain settings).render cache v scope).requests,
        request.key ∉ Request.keys ((plain settings).render after v scope).requests := by
  refine ⟨?_, ?_, ?_⟩
  · intro request h
    exact cache.not_settled_iff.1 (mem_requests_iff_reads.1 h).2
  · intro key hopen hk
    have hs := cache.not_settled_iff.2 hopen
    refine ⟨fun entry => render_eq_of_agree fun other => ?_,
      render_eq_of_agree fun other => ?_⟩
    · by_cases heq : key = other
      · exact .inr (heq ▸ ⟨hs, hk⟩)
      · exact .inl (by rw [Cache.get?_insert, if_neg heq])
    · by_cases heq : key = other
      · exact .inr (heq ▸ ⟨hs, hk⟩)
      · exact .inl (by rw [Cache.get?_forget, if_neg heq])
  · intro after hafter request h hk
    obtain ⟨other, ho, heq⟩ := List.mem_map.1 hk
    exact (mem_requests_iff_reads.1 ho).2 (heq ▸ hafter request h)

/-- Two loaders with another loader in each. -/
def fourLoaders : Value :=
  .list [loaderOf "a" (loaderOf "b" .null), loaderOf "c" (loaderOf "d" .null)]

/-- One record is there and another one is awaited. -/
def halfLoaded : Cache :=
  (Cache.empty.insert (Request.one "a").key (.ready .null)).insert (Request.one "b").key .awaited

theorem requests_exact_halfLoaded :
    ((plain .default).render halfLoaded fourLoaders .empty).requests = [.one "b", .one "c"] ∧
      (plain .default).render (halfLoaded.insert (Request.one "d").key (.failed "gone"))
        fourLoaders .empty = (plain .default).render halfLoaded fourLoaders .empty ∧
      ∀ after : Cache, after.Settled (Request.one "b").key → after.Settled (Request.one "c").key →
        (Request.one "c").key ∉
          Request.keys ((plain .default).render after fourLoaders .empty).requests := by
  obtain ⟨-, hother, hafter⟩ := requests_exact .default fourLoaders .empty halfLoaded
  have hrequests : ((plain .default).render halfLoaded fourLoaders .empty).requests =
      [.one "b", .one "c"] := by
    decide +kernel
  have hfree : halfLoaded.isFree (Request.one "d").key = true := by decide +kernel
  rw [hrequests] at hother hafter
  refine ⟨hrequests, ?_, ?_⟩
  · exact (hother _ (.inl (Cache.isFree_iff.1 hfree)) (by decide +kernel)).1 _
  · intro after hb hc
    have hall : ∀ request ∈ [Request.one "b", .one "c"], after.Settled request.key :=
      List.forall_mem_cons.2 ⟨hb, List.forall_mem_singleton.2 hc⟩
    exact hafter after hall _ (.tail _ (.head _))

end ViewTree.Renderer
