import ViewTree.Proofs.Cache.Replies

/-!
# Cache — a cancelled round leaves no trace

Settling that waits for a reply in vain gives its claims back, also those whose replies have come.
Claims take only what is free, and releases do not get into each other's way, so that giving all
claims back restores the cache as it was, entry by entry and in its order
(`releaseAll_claimAll`).  Settling the same requests later starts from the same cache.

* `release_comm`, `releaseAll_release`: releases in any order.
* `settle_pending`: what a request without a reply does to settling.
-/

namespace ViewTree

variable {σ : Type}

/-! ### Giving all claims back -/

namespace Cache

theorem forget_comm (cache : Cache) (key other : String) :
    (cache.forget key).forget other = (cache.forget other).forget key := by
  simp only [forget, Fields.erase, List.filter_filter, Bool.and_comm]

theorem release_comm (cache : Cache) (key other : String) :
    (cache.release key).release other = (cache.release other).release key := by
  by_cases e : key = other
  · rw [e]
  · have hkey := isAwaited_release cache other key
    have hother := isAwaited_release cache key other
    rw [if_neg e] at hother
    rw [if_neg (Ne.symm e)] at hkey
    rw [release, hother, release.eq_def (cache.release other), hkey]
    cases ha : cache.isAwaited key <;> cases hb : cache.isAwaited other <;>
      simp [release, ha, hb, forget_comm]

/-- A release before others can as well be made after them. -/
theorem releaseAll_release (cache : Cache) (requests : List Request) (key : String) :
    (cache.release key).releaseAll requests = (cache.releaseAll requests).release key := by
  induction requests generalizing cache with
  | nil => rfl
  | cons r requests ih =>
      rw [releaseAll, releaseAll, List.foldl_cons, List.foldl_cons, release_comm]
      exact ih _

/-- **Claims that are all given back leave no trace.** -/
theorem releaseAll_claimAll (cache : Cache) (requests : List Request) :
    (cache.claimAll requests).2.releaseAll (cache.claimAll requests).1 = cache := by
  induction requests generalizing cache with
  | nil => rfl
  | cons r requests ih =>
      rw [claimAll_cons]
      by_cases hfree : cache.isFree r.key = true
      · rw [if_pos hfree, releaseAll, List.foldl_cons]
        calc ((((cache.claim r.key).claimAll requests).2).release r.key).releaseAll
                ((cache.claim r.key).claimAll requests).1
            = ((((cache.claim r.key).claimAll requests).2).releaseAll
                ((cache.claim r.key).claimAll requests).1).release r.key :=
              releaseAll_release _ _ _
          _ = (cache.claim r.key).release r.key := by rw [ih]
          _ = cache := release_claim hfree
      · have hclaim : cache.claim r.key = cache := if_neg hfree
        rw [if_neg hfree, hclaim]
        exact ih cache

end Cache

/-! ### A request without a reply -/

/-- One of several requests, asked for one after the other, gets no reply. -/
def Client.Pending (client : Client σ) (requests : List Request) (s : σ) : Prop :=
  ∃ before r after, requests = before ++ r :: after ∧
    (client.ask r (client.askAll before s).2).1 = .silent

/-- **A cancelled round leaves no trace.**  When one of the requests that settling claims gets no
reply, settling is cancelled whatever the others got, the cache is what it was before, and settling
the same requests again claims the same ones. -/
theorem settle_pending {client : Client σ} {requests : List Request} {cache : Cache} {s : σ}
    (h : client.Pending (cache.claimAll requests).1 s) :
    (settle (some client) requests cache s).settlement = .cancelled ∧
      (settle (some client) requests cache s).cache = cache ∧
      ((settle (some client) requests cache s).cache.claimAll requests).1 =
        (cache.claimAll requests).1 := by
  obtain ⟨before, r, after, hsplit, hsilent⟩ := h
  have hreply := Client.mem_replies (some client) before r after s
  rw [← hsplit, Client.replyAfter, hsilent] at hreply
  obtain ⟨hcancelled, hcache⟩ := settle_of_silent (Reply.entries?_of_silent hreply)
  rw [Cache.releaseAll_claimAll] at hcache
  rw [hcache]
  exact ⟨hcancelled, rfl, rfl⟩

/-- A store that does not come back from looking for one record, and has the moods of `moodyStore`
with all others. -/
def stallingStore : Client Unit where
  find id s := if id = "c" then (.silent, s) else moodyStore.find id s
  select := moodyStore.select

/-- One claim is answered and one crashes before the third one gets no reply. -/
theorem settle_pending_stallingStore :
    stallingStore.Pending (halfKnown.claimAll mixedRequests).1 () ∧
      ∃ after, (settle (some stallingStore) mixedRequests halfKnown ()).cache = after ∧
        after = halfKnown ∧
        Request.keys (after.claimAll mixedRequests).1 =
          [(Request.one "a").key, (Request.one "b").key, (Request.one "c").key] := by
  have hclaims : (halfKnown.claimAll mixedRequests).1 = [.one "a", .one "b"] ++ .one "c" :: [] := by
    decide +kernel
  have hpending : stallingStore.Pending (halfKnown.claimAll mixedRequests).1 () :=
    ⟨_, _, _, hclaims, rfl⟩
  obtain ⟨-, hcache, hagain⟩ := settle_pending hpending
  refine ⟨hpending, _, rfl, hcache, ?_⟩
  rw [hagain, hclaims]
  rfl

end ViewTree
