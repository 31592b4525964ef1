import ViewTree.Proofs.Cache.Settling
import ViewTree.Proofs.Render.Visits

/-!
# Render — rounds of settling against the nesting of loaders

A request that a surface waits for stands below a number of loaders that are answered already
(`Waits`).  Each round settles all that is waited for, so what is waited for afterwards lies below
more loaders than something that was waited for before (`Waits.of_later`).  As many rounds as
loaders nest in the definition leave nothing (`renderAndSettle_loads`), whatever the answers are
and however the requests further down depend on them.

* `settleRounds_of_nil`, `settleRounds_of_idle`, `settleRounds_of_claims`: where the loop stops and
  how it goes on.
-/

namespace ViewTree.Renderer

variable {σ : Type}

/-! ### How loaders nest in a definition -/

/-- A way down in a node definition, from a node to one of the nodes in it. -/
inductive Descent (r : Renderer) : Value → List Value → Prop where
  | last (v : Value) : Descent r v [v]
  | into {v w : Value} {path : List Value} (h : w ∈ r.parts v) (t : Descent r w path) :
      Descent r v (v :: path)

/-- No way down passes through more than so many loaders. -/
def LoadersNest (r : Renderer) (k : Nat) (v : Value) : Prop :=
  ∀ path, Descent r v path → path.countP r.isLoader ≤ k

/-- How many loaders a node is. -/
def loaderCount (r : Renderer) (v : Value) : Nat :=
  if r.isLoader v then 1 else 0

theorem countP_cons (r : Renderer) (v : Value) (path : List Value) :
    (v :: path).countP r.isLoader = path.countP r.isLoader + r.loaderCount v :=
  List.countP_cons

/-- Loaders nest as deeply as in the parts, and one deeper at a loader. -/
theorem LoadersNest.of_parts {r : Renderer} {j k : Nat} {v : Value}
    (h : ∀ w ∈ r.parts v, LoadersNest r j w) (hk : j + r.loaderCount v ≤ k) :
    LoadersNest r k v := by
  intro path hp
  cases hp with
  | last =>
      rw [countP_cons, List.countP_nil]
      omega
  | into hw t =>
      rw [countP_cons]
      have := h _ hw _ t
      omega

/-! ### What is waited for, and below how many loaders -/

/-- A node with some levels left waits for a request below a number of answered loaders. -/
inductive Waits (r : Renderer) (cache : Cache) : Nat → Value → Scope → Nat → Request → Prop where
  /-- The node waits for the request itself. -/
  | here {levels : Nat} {v : Value} {scope : Scope} {request : Request}
      (h : request ∈ ownRequests r cache v scope) : Waits r cache (levels + 1) v scope 0 request
  /-- A node that it renders waits for it. -/
  | deeper {levels n : Nat} {v w : Value} {scope inner : Scope} {request : Request}
      (h : (w, inner) ∈ visits r cache v scope) (t : Waits r cache levels w inner n request) :
      Waits r cache (levels + 1) v scope (n + r.loaderCount v) request

/-- The requests of a surface are those that its node waits for. -/
theorem mem_requests_iff {settings : Settings} {cache : Cache} {levels : Nat} {v : Value}
    {scope : Scope} {request : Request} :
    request ∈ ((plain settings).renderAt cache levels v scope).requests ↔
      ∃ n, Waits (plain settings) cache levels v scope n request := by
  induction levels generalizing v scope with
  | zero =>
      constructor
      · intro h; cases h
      · rintro ⟨n, h⟩; cases h
  | succ levels ih =>
      rw [renderAt, requests_node_eq, List.mem_append, List.mem_flatMap]
      constructor
      · rintro (h | ⟨⟨w, inner⟩, hw, h⟩)
        · exact ⟨0, .here h⟩
        · obtain ⟨n, t⟩ := ih.1 h
          exact ⟨_, .deeper hw t⟩
      · rintro ⟨n, h⟩
        cases h with
        | here h => exact .inl h
        | deeper hw t => exact .inr ⟨_, hw, ih.2 ⟨_, t⟩⟩

namespace Waits

variable {r : Renderer} {cache after : Cache} {levels n : Nat} {v : Value} {scope : Scope}
  {request : Request}

theorem not_settled (h : Waits r cache levels v scope n request) :
    ¬ cache.Settled request.key := by
  induction h with
  | here h => exact not_settled_of_mem_ownRequests h
  | deeper _ _ ih => exact ih

/-- The loaders above a request that is waited for, and its own, lie on one way down. -/
theorem descent (h : Waits r cache levels v scope n request) :
    ∃ path, Descent r v path ∧ path.countP r.isLoader = n + 1 := by
  induction h with
  | here h =>
      refine ⟨_, .last _, ?_⟩
      rw [List.countP_singleton, if_pos (isLoader_of_mem_ownRequests h)]
  | deeper h _ ih =>
      obtain ⟨path, hp, hc⟩ := ih
      refine ⟨_, .into (mem_parts_of_mem_visits h) hp, ?_⟩
      rw [countP_cons, hc]
      omega

theorem lt_of_loadersNest {k : Nat} (h : Waits r cache levels v scope n request)
    (hk : LoadersNest r k v) : n < k := by
  obtain ⟨path, hp, hc⟩ := h.descent
  have := hk path hp
  omega

/-- **A round reaches one loader deeper.**  If everything that was waited for is settled, and what
was settled stays so, then what is waited for now lies below more loaders than something that was
waited for before. -/
theorem of_later (hkeep : cache.Keeps after) (h : Waits r after levels v scope n request)
    (hsettled : ∀ m q, Waits r cache levels v scope m q → after.Settled q.key) :
    ∃ m q, m < n ∧ Waits r cache levels v scope m q := by
  induction h with
  | here h =>
      rw [ownRequests_of_later hkeep fun q hq => hsettled 0 q (.here hq)] at h
      cases h
  | @deeper levels n v w scope inner request hw _ ih =>
      rcases mem_visits_of_later hkeep hw with hw | ⟨hl, q, hq⟩
      · obtain ⟨m, q, hm, hq⟩ := ih fun m q hq => hsettled _ q (.deeper hw hq)
        exact ⟨m + r.loaderCount v, q, by omega, .deeper hw hq⟩
      -- the loader itself was waiting, below none of the loaders of this node
      · exact ⟨0, q, by rw [loaderCount, if_pos hl]; omega, .here hq⟩

end Waits

/-! ### What the loop does next -/

/-- If a round claims nothing, all that is waited for is awaited. -/
theorem awaited_of_idle {settings : Settings} {cache : Cache} {v : Value} {scope : Scope}
    (h : (cache.claimAll ((plain settings).render cache v scope).requests).1 = [])
    {request : Request} (hq : request ∈ ((plain settings).render cache v scope).requests) :
    cache.get? request.key = some .awaited := by
  obtain ⟨n, hw⟩ := mem_requests_iff.1 hq
  rcases cache.not_settled_iff.1 hw.not_settled with hn | ha
  · have hk := Cache.mem_claimAll_iff.2 ⟨List.mem_map_of_mem hq, hn⟩
    rw [h] at hk
    cases hk
  · exact ha

section Loop

variable {r : Renderer} {client? : Option (Client σ)} {v : Value} {scope : Scope}
  {surface : Surface} {cache : Cache} {s : σ}

/-- The loop stops when nothing is waited for. -/
theorem settleRounds_of_nil (h : surface.requests = []) (rounds : Nat) :
    r.settleRounds client? v scope rounds surface cache s = ⟨some surface, cache, s⟩ := by
  cases rounds with
  | zero => rfl
  | succ rounds => rw [settleRounds, if_pos (List.isEmpty_iff.2 h)]

variable (hc : ∀ client ∈ client?, client.Completes)

include hc

/-- The loop stops after a round that claims nothing, and such a round changes nothing. -/
theorem settleRounds_of_idle (hne : surface.requests ≠ [])
    (h : (cache.claimAll surface.requests).1 = []) (rounds : Nat) :
    r.settleRounds client? v scope (rounds + 1) surface cache s =
      ⟨some surface, cache, (settle client? surface.requests cache s).state⟩ := by
  have hcount := settlement_settle hc surface.requests cache s
  rw [h] at hcount
  rw [settleRounds, if_neg (mt List.isEmpty_iff.1 hne)]
  simp only [hcount, List.length_nil, settle_idle hc h]

/-- The loop goes on after a round that claims something. -/
theorem settleRounds_of_claims (h : (cache.claimAll surface.requests).1 ≠ []) (rounds : Nat) :
    r.settleRounds client? v scope (rounds + 1) surface cache s =
      r.settleRounds client? v scope rounds
        (r.render (settle client? surface.requests cache s).cache v scope)
        (settle client? surface.requests cache s).cache
        (settle client? surface.requests cache s).state := by
  have hcount := settlement_settle hc surface.requests cache s
  obtain ⟨count, hlen⟩ := Nat.exists_eq_succ_of_ne_zero (mt List.length_eq_zero_iff.1 h)
  rw [hlen] at hcount
  have hne : surface.requests ≠ [] := by
    intro hnil
    rw [hnil] at h
    exact h rfl
  rw [settleRounds, if_neg (mt List.isEmpty_iff.1 hne)]
  simp only [hcount]

end Loop

/-! ### Rounds -/

/-- What one round of settling does to what a node waits for. -/
theorem waits_settle {settings : Settings} {client? : Option (Client σ)}
    (hc : ∀ client ∈ client?, client.Completes) {cache : Cache}
    (hfree : ∀ key, cache.get? key ≠ some .awaited) {levels n : Nat} {v : Value} {scope : Scope}
    {s : σ} {request : Request}
    (h : Waits (plain settings)
      (settle client? ((plain settings).renderAt cache levels v scope).requests cache s).cache
      levels v scope n request) :
    ∃ m q, m < n ∧ Waits (plain settings) cache levels v scope m q := by
  refine Waits.of_later (fun key hs => get?_settle_of_ne_none hc hs.ne_none _ _) h ?_
  intro m q hq
  refine settled_settle hc ?_ ?_ s
  · exact List.mem_map_of_mem (mem_requests_iff.2 ⟨m, hq⟩)
  · rcases cache.get?_cases q.key with hn | ha | hs
    · exact hn
    · exact absurd ha (hfree _)
    · exact absurd hs hq.not_settled

/-- Settling goes on as long as something is waited for, until the rounds reach the loaders that
nest most deeply. -/
theorem settleRounds_loads (settings : Settings) {client? : Option (Client σ)}
    (hc : ∀ client ∈ client?, client.Completes) {v : Value} {k : Nat}
    (hk : LoadersNest (plain settings) k v) (scope : Scope) (rounds : Nat) (cache : Cache) (s : σ)
    (hfree : ∀ key, cache.get? key ≠ some .awaited)
    (hdeep : ∀ n q, Waits (plain settings) cache (settings.maxDepth.toNat + 1) v scope n q →
      k ≤ n + rounds) :
    ∃ surface,
      ((plain settings).settleRounds client? v scope rounds
        ((plain settings).render cache v scope) cache s).surface = some surface ∧
      surface.requests = [] := by
  induction rounds generalizing cache s with
  | zero =>
      refine ⟨_, rfl, List.eq_nil_iff_forall_not_mem.2 ?_⟩
      intro q hq
      -- what still waits would lie below more loaders than nest
      obtain ⟨n, h⟩ := mem_requests_iff.1 hq
      have := hdeep n q h
      have := h.lt_of_loadersNest hk
      omega
  | succ rounds ih =>
      by_cases he : ((plain settings).render cache v scope).requests = []
      · rw [settleRounds_of_nil he]
        exact ⟨_, rfl, he⟩
      · have hclaims :
            (cache.claimAll ((plain settings).render cache v scope).requests).1 ≠ [] := by
          intro hidle
          obtain ⟨q, hq⟩ := List.exists_mem_of_ne_nil _ he
          exact hfree _ (awaited_of_idle hidle hq)
        rw [settleRounds_of_claims hc hclaims]
        -- one round less, and everything that waits one loader deeper
        refine ih _ _ (fun key h => hfree key (awaited_of_settle hc h)) ?_
        intro n q h
        obtain ⟨m, q', hm, hq'⟩ := waits_settle hc hfree h
        have := hdeep m q' hq'
        omega

/-- **As many rounds as loaders nest load everything.**  Without components of the host, from a
cache in which nothing is awaited and with a client that completes or none, a settled render gives
a surface, and nothing in it is loading. -/
theorem renderAndSettle_loads (settings : Settings) (client? : Option (Client σ))
    (hc : ∀ client ∈ client?, client.Completes) (v : Value) (scope : Scope) (cache : Cache)
    (hfree : ∀ key, cache.get? key ≠ some .awaited) (s : σ) (k : Nat)
    (hk : LoadersNest (plain settings) k v) (hrounds : k ≤ settings.maxSettleRounds.toNat) :
    ∃ surface, ((plain settings).renderAndSettle client? v scope cache s).surface = some surface ∧
      ∀ request, .loading request ∉ surface.preorder := by
  have hdeep : ∀ n q, Waits (plain settings) cache (settings.maxDepth.toNat + 1) v scope n q →
      k ≤ n + settings.maxSettleRounds.toNat := by
    intro n q _
    omega
  obtain ⟨surface, hs, hr⟩ := settleRounds_loads settings hc hk scope
    settings.maxSettleRounds.toNat cache s hfree hdeep
  exact ⟨surface, hs, Surface.requests_eq_nil_iff.1 hr⟩

theorem LoadersNest.loaderOf {k : Nat} {children : Value}
    (h : LoadersNest (plain .default) k children) (id : String) :
    LoadersNest (plain .default) (k + 1) (loaderOf id children) :=
  .of_parts (fun _ hw => List.mem_singleton.1 hw ▸ h) (Nat.le_refl _)

theorem renderAndSettle_loads_chain :
    2 ≤ Settings.default.maxSettleRounds.toNat ∧
      LoadersNest (plain .default) 2
        (loaderOf "a" (loaderOf "\x7b\x7bdata.title\x7d\x7d" (.text "found"))) ∧
      ∃ surface,
        ((plain .default).renderAndSettle (some Store.client)
          (loaderOf "a" (loaderOf "\x7b\x7bdata.title\x7d\x7d" (.text "found"))) .empty .empty
          ⟨[.create "a" "b", .create "b" ""]⟩).surface = some surface ∧
        ∀ request, .loading request ∉ surface.preorder := by
  have hk : LoadersNest (plain .default) 2
      (loaderOf "a" (loaderOf "\x7b\x7bdata.title\x7d\x7d" (.text "found"))) :=
    ((LoadersNest.of_parts (fun _ hw => absurd hw List.not_mem_nil) (Nat.le_refl 0)).loaderOf
      _).loaderOf _
  have hrounds : 2 ≤ Settings.default.maxSettleRounds.toNat := by decide
  exact ⟨hrounds, hk, renderAndSettle_loads .default (some Store.client)
    (fun client h => Option.mem_some.1 h ▸ Store.client_completes) _ .empty .empty
    (fun key h => nomatch h) _ 2 hk hrounds⟩

end ViewTree.Renderer
