import ViewTree.Proofs.Render.Reached
import ViewTree.Proofs.Render.Rounds

/-!
# Render — where settling stops

A settled render alternates a render and a round of settling, and gives the surface that the cache
of the moment renders to (`Turns`).  It goes on while a round claims something, so it stops when
nothing is loading, when all that is loading is awaited by someone else, or when the rounds are
used up.  A round claims only what nothing was known of, and what it claims is settled from then
on, so no key is settled in two rounds.

* `Turns`: renders and rounds in turn, with the rounds written down.
* `settleRounds_turns`: the loop takes turns and stops for one of the three reasons.
* `renderAndSettle_stops`: all of this together.
-/

namespace ViewTree

variable {σ : Type}

/-- A round of settling. -/
structure Round where
  /-- What it was made for. -/
  requests : List Request
  before : Cache
  after : Cache

/-- The keys that a round settles: those of the requests that it claims. -/
def Round.keys (round : Round) : List String :=
  Request.keys (round.before.claimAll round.requests).1

namespace Renderer

/-- The round that settles what a node waits for. -/
def round (r : Renderer) (client? : Option (Client σ)) (v : Value) (scope : Scope) (cache : Cache)
    (s : σ) : Round :=
  ⟨(r.render cache v scope).requests, cache,
    (settle client? (r.render cache v scope).requests cache s).cache⟩

/-- Some rounds lead from one cache to another, each made for what the node waits for at its
start. -/
inductive Turns (r : Renderer) (client? : Option (Client σ)) (v : Value) (scope : Scope) :
    Cache → σ → List Round → Cache → σ → Prop where
  | refl (cache : Cache) (s : σ) : Turns r client? v scope cache s [] cache s
  | more {cache final : Cache} {s state : σ} {rounds : List Round}
      (t : Turns r client? v scope (r.round client? v scope cache s).after
        (settle client? (r.render cache v scope).requests cache s).state rounds final state) :
      Turns r client? v scope cache s (r.round client? v scope cache s :: rounds) final state

/-- Why settling stops after some rounds of so many: nothing is loading, all that is loading is
awaited, or all rounds were made and each of them settled something. -/
def Stopped (surface : Surface) (cache : Cache) (rounds : List Round) (limit : Nat) : Prop :=
  (∀ request, .loading request ∉ surface.preorder) ∨
    (∀ request, .loading request ∈ surface.preorder → cache.get? request.key = some .awaited) ∨
    rounds.length = limit ∧ ∀ round ∈ rounds, round.keys ≠ []

section Turns

variable {settings : Settings} {client? : Option (Client σ)}
  (hc : ∀ client ∈ client?, client.Completes) {v : Value} {scope : Scope} {cache final : Cache}
  {s state : σ} {rounds : List Round}

include hc

/-- A round settles exactly what was free before and is settled afterwards. -/
theorem mem_keys_round {key : String} :
    key ∈ ((plain settings).round client? v scope cache s).keys ↔
      cache.get? key = none ∧
        ((plain settings).round client? v scope cache s).after.Settled key := by
  rw [Round.keys, Cache.mem_claimAll_iff]
  constructor
  · rintro ⟨hk, hfree⟩
    exact ⟨hfree, settled_settle hc hk hfree s⟩
  · rintro ⟨hfree, hs⟩
    refine ⟨?_, hfree⟩
    by_cases hk : key ∈ Request.keys ((plain settings).render cache v scope).requests
    · exact hk
    · exact absurd ((get?_settle_of_notMem hc hk cache s).trans hfree) hs.ne_none

/-- What is known stays known, so no later round settles it. -/
theorem Turns.notMem_keys
    (t : Turns (plain settings) client? v scope cache s rounds final state) {key : String}
    (h : cache.get? key ≠ none) : ∀ round ∈ rounds, key ∉ round.keys := by
  induction t with
  | refl => exact nofun
  | more _ ih =>
      refine List.forall_mem_cons.2 ⟨fun hk => h ((mem_keys_round hc).1 hk).1, ih ?_⟩
      exact (get?_settle_of_ne_none hc h _ _).symm ▸ h

/-- **No key is settled twice.**  Each round settles what was free before it, and no two rounds
settle the same key. -/
theorem Turns.disjoint (t : Turns (plain settings) client? v scope cache s rounds final state) :
    (∀ round ∈ rounds, ∀ key, key ∈ round.keys ↔
      round.before.get? key = none ∧ round.after.Settled key) ∧
      rounds.Pairwise fun a b => ∀ key ∈ a.keys, key ∉ b.keys := by
  induction t with
  | refl => exact ⟨nofun, .nil⟩
  | more t ih =>
      refine ⟨List.forall_mem_cons.2 ⟨fun key => mem_keys_round hc, ih.1⟩, ?_⟩
      refine List.pairwise_cons.2 ⟨fun b hb key hk => ?_, ih.2⟩
      exact t.notMem_keys hc ((mem_keys_round hc).1 hk).2.ne_none b hb

/-- **The loop takes turns.**  It gives the surface that the last cache renders to, and stops for
one of the three reasons. -/
theorem settleRounds_turns (limit : Nat) (cache : Cache) (s : σ) :
    ∃ rounds final state, Turns (plain settings) client? v scope cache s rounds final state ∧
      (plain settings).settleRounds client? v scope limit ((plain settings).render cache v scope)
          cache s =
        ⟨some ((plain settings).render final v scope), final, state⟩ ∧
      rounds.length ≤ limit ∧
      Stopped ((plain settings).render final v scope) final rounds limit := by
  induction limit generalizing cache s with
  | zero => exact ⟨[], cache, s, .refl _ _, rfl, Nat.le_refl 0, .inr (.inr ⟨rfl, nofun⟩)⟩
  | succ limit ih =>
      by_cases he : ((plain settings).render cache v scope).requests = []
      · refine ⟨[], cache, s, .refl _ _, ?_, Nat.zero_le _, ?_⟩
        · exact settleRounds_of_nil he (limit + 1)
        · exact .inl (Surface.requests_eq_nil_iff.1 he)
      by_cases hidle : (cache.claimAll ((plain settings).render cache v scope).requests).1 = []
      · have hafter : ((plain settings).round client? v scope cache s).after = cache :=
          settle_idle hc hidle s
        refine ⟨[_], _, _, .more (.refl _ _), ?_, Nat.succ_le_succ (Nat.zero_le _), ?_⟩
        · rw [hafter]
          exact settleRounds_of_idle hc he hidle limit
        · rw [hafter]
          exact .inr (.inl fun request h => awaited_of_idle hidle (Surface.mem_requests.2 h))
      · obtain ⟨rounds, final, state, t, hloop, hlen, hstop⟩ := ih _ _
        refine ⟨_, final, state, .more t, ?_, Nat.succ_le_succ hlen, ?_⟩
        · exact (settleRounds_of_claims hc hidle limit).trans hloop
        rcases hstop with hnone | hawaited | ⟨hall, hkeys⟩
        · exact .inl hnone
        · exact .inr (.inl hawaited)
        · refine .inr (.inr ⟨congrArg Nat.succ hall, List.forall_mem_cons.2 ⟨?_, hkeys⟩⟩)
          exact mt List.map_eq_nil_iff.1 hidle

end Turns

/-- **A settled render stops only for a stated reason.**  Without components of the host and with a
client that completes or none, a settled render is a number of turns of rendering and settling.
The surface is what the cache that is left renders to; nothing in it is loading, or all that is
loading is awaited, or all rounds were made and each of them settled something.  A round
settles exactly what was free before it and is settled after it, and no two rounds settle the same
key. -/
theorem renderAndSettle_stops (settings : Settings) (client? : Option (Client σ))
    (hc : ∀ client ∈ client?, client.Completes) (v : Value) (scope : Scope) (cache : Cache)
    (s : σ) :
    ∃ rounds final state, Turns (plain settings) client? v scope cache s rounds final state ∧
      (plain settings).renderAndSettle client? v scope cache s =
        ⟨some ((plain settings).render final v scope), final, state⟩ ∧
      rounds.length ≤ settings.maxSettleRounds.toNat ∧
      Stopped ((plain settings).render final v scope) final rounds
        settings.maxSettleRounds.toNat ∧
      (∀ round ∈ rounds, ∀ key, key ∈ round.keys ↔
        round.before.get? key = none ∧ round.after.Settled key) ∧
      rounds.Pairwise fun a b => ∀ key ∈ a.keys, key ∉ b.keys := by
  obtain ⟨rounds, final, state, t, hloop, hlen, hstop⟩ :=
    settleRounds_turns hc settings.maxSettleRounds.toNat cache s
  exact ⟨rounds, final, state, t, hloop, hlen, hstop, t.disjoint hc⟩

/-- Settings for a single round. -/
def singleRound : Settings := { Settings.default with maxSettleRounds := 1 }

/-- A record is found in the only round, and the loader below it is left. -/
theorem renderAndSettle_stops_singleRound :
    ∃ rounds final state,
      Turns (plain singleRound) (some Store.client) fourLoaders .empty halfLoaded
        ⟨[.create "c" ""]⟩ rounds final state ∧
      ((plain singleRound).render final fourLoaders .empty).requests = [.one "b", .one "d"] ∧
      final.get? (Request.one "b").key = some .awaited ∧
      rounds.length = 1 ∧ ∀ round ∈ rounds, round.keys ≠ [] := by
  obtain ⟨rounds, final, state, t, hloop, -, hstop, -⟩ :=
    renderAndSettle_stops singleRound (some Store.client)
      (fun client h => Option.mem_some.1 h ▸ Store.client_completes) fourLoaders .empty halfLoaded
      ⟨[.create "c" ""]⟩
  have hrequests : ((plain singleRound).renderAndSettle (some Store.client) fourLoaders .empty
      halfLoaded ⟨[.create "c" ""]⟩).surface.map Surface.requests =
        some [.one "b", .one "d"] := by
    decide +kernel
  have hawaited : ((plain singleRound).renderAndSettle (some Store.client) fourLoaders .empty
      halfLoaded ⟨[.create "c" ""]⟩).cache.isAwaited (Request.one "b").key = true := by
    decide +kernel
  have hfree : ((plain singleRound).renderAndSettle (some Store.client) fourLoaders .empty
      halfLoaded ⟨[.create "c" ""]⟩).cache.isFree (Request.one "d").key = true := by
    decide +kernel
  rw [hloop] at hrequests hawaited hfree
  replace hrequests := Option.some.inj hrequests
  have hd : .loading (.one "d") ∈ ((plain singleRound).render final fourLoaders .empty).preorder :=
    Surface.mem_requests.1 (hrequests ▸ .tail _ (.head _))
  refine ⟨rounds, final, state, t, hrequests, Cache.isAwaited_iff.1 hawaited, ?_⟩
  rcases hstop with hnone | hall | hused
  · exact absurd hd (hnone _)
  · exact nomatch (Cache.isFree_iff.1 hfree).symm.trans (hall _ hd)
  · exact hused

end Renderer

end ViewTree
