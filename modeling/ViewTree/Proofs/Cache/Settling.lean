import ViewTree.Proofs.Cache.Claiming
import ViewTree.Render.Settle

/-!
# Cache — what settling leaves

A client completes when every question gets a reply, be it an answer, a refusal or a crash.
Settling with such a client, or with none, is never cancelled.  It keeps what the cache knew and
every request that it was given is settled afterwards, unless someone else waits for it already.

* `settle_eq`: settling as one claim followed by the entries of the replies.
* `get?_settle_of_ne_none`, `settled_settle`: what it keeps and what it adds.
* `awaited_of_settle`: nothing is awaited afterwards that was not before.
* `settlement_settle`, `settle_idle`: it counts what it claims, and without claims changes nothing.
-/

namespace ViewTree

variable {σ : Type}

/-! ### Replies -/

/-- Every question gets a reply. -/
def Client.Completes (client : Client σ) : Prop :=
  (∀ id s, (client.find id s).1 ≠ .silent) ∧ ∀ query s, (client.select query s).1 ≠ .silent

theorem Reply.map_ne_silent {α β : Type} {reply : Reply α} (h : reply ≠ .silent) (f : α → β) :
    reply.map f ≠ .silent := by
  cases reply with
  | silent => exact absurd rfl h
  | answer | refused | crashed => exact nofun

/-- A reply that came gives an entry, and not that of waiting. -/
theorem Reply.entry?_of_ne_silent {reply : Reply Value} (h : reply ≠ .silent) :
    ∃ entry, reply.entry? = some entry ∧ entry ≠ .awaited := by
  cases reply with
  | silent => exact absurd rfl h
  | answer v => exact ⟨.ready v, rfl, nofun⟩
  | refused why => exact ⟨.failed why.message, rfl, nofun⟩
  | crashed crash => exact ⟨.failed crash.describe, rfl, nofun⟩

namespace Client.Completes

variable {client : Client σ}

theorem ask (h : client.Completes) (request : Request) (s : σ) :
    (client.ask request s).1 ≠ .silent := by
  cases request with
  | one id => exact Reply.map_ne_silent (h.1 id s) _
  | several query => exact Reply.map_ne_silent (h.2 query s) _

/-- Every request that is asked for gets an entry. -/
theorem entries?_askAll (h : client.Completes) (requests : List Request) (s : σ) :
    ∃ entries, Reply.entries? (client.askAll requests s).1 = some entries ∧
      entries.map Prod.fst = requests ∧ ∀ e ∈ entries, e.2 ≠ Entry.awaited := by
  induction requests generalizing s with
  | nil => exact ⟨[], rfl, rfl, nofun⟩
  | cons r rs ih =>
      obtain ⟨entry, he, hne⟩ := Reply.entry?_of_ne_silent (h.ask r s)
      obtain ⟨entries, hes, hmap, hall⟩ := ih (client.ask r s).2
      rw [Reply.entries?] at hes
      refine ⟨(r, entry) :: entries, ?_, by rw [List.map_cons, hmap], ?_⟩
      · simp only [askAll, Reply.entries?, List.mapM_cons, he, hes]
        rfl
      · exact List.forall_mem_cons.2 ⟨hne, hall⟩

end Client.Completes

/-- A store in memory answers or refuses. -/
theorem Store.client_completes : Store.client.Completes := by
  refine ⟨fun id s => ?_, fun query s => nofun⟩
  simp only [Store.client]
  cases s.find? id with
  | none => exact nofun
  | some record => exact nofun

/-! ### Settling -/

section Settle

variable {client? : Option (Client σ)} (hc : ∀ client ∈ client?, client.Completes)

include hc

/-- Settling claims what is free and puts an entry under the key of each claim. -/
theorem settle_eq (requests : List Request) (cache : Cache) (s : σ) :
    ∃ entries after,
      settle client? requests cache s =
          ⟨.finished (cache.claimAll requests).1.length,
            (cache.claimAll requests).2.insertAll entries, after⟩ ∧
        entries.map Prod.fst = (cache.claimAll requests).1 ∧
        ∀ e ∈ entries, e.2 ≠ Entry.awaited := by
  cases client? with
  | none =>
      refine ⟨(cache.claimAll requests).1.map fun r => (r, .failed StoreFault.noStore.message),
        s, rfl, ?_, ?_⟩
      · rw [List.map_map]
        exact List.map_id _
      · rintro e he
        obtain ⟨r, -, rfl⟩ := List.mem_map.1 he
        exact nofun
  | some client =>
      obtain ⟨entries, he, hmap, hne⟩ :=
        (hc client rfl).entries?_askAll (cache.claimAll requests).1 s
      refine ⟨entries, (client.askAll (cache.claimAll requests).1 s).2, ?_, hmap, hne⟩
      rw [settle]
      simp only [he]

/-- What is known of a key stays. -/
theorem get?_settle_of_ne_none {cache : Cache} {key : String} (h : cache.get? key ≠ none)
    (requests : List Request) (s : σ) :
    (settle client? requests cache s).cache.get? key = cache.get? key := by
  obtain ⟨entries, after, he, hmap, -⟩ := settle_eq hc requests cache s
  rw [he, Cache.get?_insertAll_of_notMem, Cache.get?_claimAll, if_neg]
  · exact fun hk => h (Cache.isFree_iff.1 hk.2)
  · rw [hmap]
    exact fun hk => h (Cache.mem_claimAll_iff.1 hk).2

/-- A request of which nothing was known is settled. -/
theorem settled_settle {cache : Cache} {requests : List Request} {key : String}
    (hk : key ∈ Request.keys requests) (h : cache.get? key = none) (s : σ) :
    (settle client? requests cache s).cache.Settled key := by
  obtain ⟨entries, after, he, hmap, hne⟩ := settle_eq hc requests cache s
  have hm : key ∈ Request.keys (entries.map Prod.fst) :=
    hmap ▸ Cache.mem_claimAll_iff.2 ⟨hk, h⟩
  obtain ⟨e, hmem, hg⟩ :=
    Cache.get?_insertAll_of_mem (cache.claimAll requests).2 hm
  rw [he]
  exact ⟨e.2, hg, hne e hmem⟩

/-- A key without a request stays as it is. -/
theorem get?_settle_of_notMem {requests : List Request} {key : String}
    (hk : key ∉ Request.keys requests) (cache : Cache) (s : σ) :
    (settle client? requests cache s).cache.get? key = cache.get? key := by
  obtain ⟨entries, after, he, hmap, -⟩ := settle_eq hc requests cache s
  rw [he, Cache.get?_insertAll_of_notMem, Cache.get?_claimAll, if_neg]
  · exact fun h => hk h.1
  · rw [hmap]
    exact fun h => hk (Cache.mem_claimAll_iff.1 h).1

/-- Settling waits for nothing that was not awaited before. -/
theorem awaited_of_settle {requests : List Request} {cache : Cache} {s : σ} {key : String}
    (h : (settle client? requests cache s).cache.get? key = some .awaited) :
    cache.get? key = some .awaited := by
  by_cases hn : cache.get? key = none
  · by_cases hk : key ∈ Request.keys requests
    · exact absurd h (settled_settle hc hk hn s).ne_awaited
    · rwa [get?_settle_of_notMem hc hk] at h
  · rwa [get?_settle_of_ne_none hc hn] at h

/-- Settling is not cancelled, and counts what it claims. -/
theorem settlement_settle (requests : List Request) (cache : Cache) (s : σ) :
    (settle client? requests cache s).settlement =
      .finished (cache.claimAll requests).1.length := by
  obtain ⟨entries, after, he, -, -⟩ := settle_eq hc requests cache s
  rw [he]

/-- Settling that claims nothing leaves the cache as it is. -/
theorem settle_idle {requests : List Request} {cache : Cache}
    (h : (cache.claimAll requests).1 = []) (s : σ) :
    (settle client? requests cache s).cache = cache := by
  obtain ⟨entries, after, he, hmap, -⟩ := settle_eq hc requests cache s
  rw [h] at hmap
  rw [he, List.map_eq_nil_iff.1 hmap]
  exact Cache.claimAll_eq_self h

end Settle

end ViewTree
