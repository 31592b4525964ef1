import ViewTree.Proofs.Cache.Settling
import ViewTree.Proofs.Data.Keys

/-!
# Cache — the reply to each request

Settling claims requests, asks for all of them and only then puts entries into the cache.  When
every request got a reply, the entry under its key is what its own reply leaves (`Reply.Leaves`):
the value of an answer, or the words of a refusal or a crash.  Without a client every request is
refused.

* `Client.replies`, `mem_replies`: what is said to each of several requests, asked for in turn.
* `settle_of_entries`, `settle_of_silent`: settling, once it is known whether all replies came.
* `Cache.get?_insertAll_of_nodup`: entries under different keys do not get into each other's way.
* `Fills`, `settle_fills`: what settling leaves when it is not cancelled.
-/

namespace ViewTree

variable {σ : Type}

/-! ### What a reply leaves -/

/-- The entry that a reply leaves. -/
inductive Reply.Leaves : Reply Value → Entry → Prop where
  | answer (v : Value) : Leaves (.answer v) (.ready v)
  | refused (why : StoreFault) : Leaves (.refused why) (.failed why.message)
  | crashed (crash : Crash) : Leaves (.crashed crash) (.failed crash.describe)

theorem Reply.leaves_iff {reply : Reply Value} {entry : Entry} :
    reply.Leaves entry ↔ reply.entry? = some entry := by
  constructor
  · rintro (v | why | crash) <;> rfl
  · intro h
    cases reply with
    | answer v => cases h; exact .answer v
    | refused why => cases h; exact .refused why
    | crashed crash => cases h; exact .crashed crash
    | silent => cases h

theorem Reply.Leaves.ne_awaited {reply : Reply Value} {entry : Entry} (h : reply.Leaves entry) :
    entry ≠ .awaited := by
  cases h <;> exact nofun

namespace Reply

variable {replies : List (Request × Reply Value)} {entries : List (Request × Entry)}

theorem entries?_cons {r : Request} {reply : Reply Value}
    (h : entries? ((r, reply) :: replies) = some entries) :
    ∃ entry later, reply.Leaves entry ∧ entries? replies = some later ∧
      entries = (r, entry) :: later := by
  rw [entries?, List.mapM_cons] at h
  obtain ⟨first, hfirst, h⟩ := Option.bind_eq_some_iff.1 h
  obtain ⟨later, hlater, h⟩ := Option.bind_eq_some_iff.1 h
  obtain ⟨entry, hentry, rfl⟩ := Option.map_eq_some_iff.1 hfirst
  cases h
  exact ⟨entry, later, leaves_iff.2 hentry, hlater, rfl⟩

/-- There is an entry for every request. -/
theorem map_fst_entries? (h : entries? replies = some entries) :
    entries.map Prod.fst = replies.map Prod.fst := by
  induction replies generalizing entries with
  | nil => cases h; rfl
  | cons first replies ih =>
      obtain ⟨entry, later, -, hlater, rfl⟩ := entries?_cons h
      rw [List.map_cons, List.map_cons, ih hlater]

/-- It is the one that the reply to the request leaves. -/
theorem exists_mem_entries? (h : entries? replies = some entries) {r : Request}
    {reply : Reply Value} (hm : (r, reply) ∈ replies) :
    ∃ entry, (r, entry) ∈ entries ∧ reply.Leaves entry := by
  induction replies generalizing entries with
  | nil => cases hm
  | cons first replies ih =>
      obtain ⟨entry, later, hleaves, hlater, rfl⟩ := entries?_cons h
      rcases List.mem_cons.1 hm with rfl | hm
      · exact ⟨entry, .head _, hleaves⟩
      · obtain ⟨other, hother, ho⟩ := ih hlater hm
        exact ⟨other, .tail _ hother, ho⟩

/-- A request that gets no reply leaves no entries at all. -/
theorem entries?_of_silent {r : Request} (h : (r, .silent) ∈ replies) :
    entries? replies = none := by
  cases he : entries? replies with
  | none => rfl
  | some entries =>
      obtain ⟨entry, -, hleaves⟩ := exists_mem_entries? he h
      cases hleaves

end Reply

/-! ### What is said to each request -/

namespace Client

/-- What a client says to a request after some others; without a client it is refused. -/
def replyAfter (client? : Option (Client σ)) (before : List Request) (r : Request) (s : σ) :
    Reply Value :=
  match client? with
  | none => .refused .noStore
  | some client => (client.ask r (client.askAll before s).2).1

/-- What is said to several requests, one after the other. -/
def replies (client? : Option (Client σ)) (requests : List Request) (s : σ) :
    List (Request × Reply Value) :=
  match client? with
  | none => requests.map fun r => (r, .refused .noStore)
  | some client => (client.askAll requests s).1

theorem askAll_append (client : Client σ) (before after : List Request) (s : σ) :
    client.askAll (before ++ after) s =
      ((client.askAll before s).1 ++ (client.askAll after (client.askAll before s).2).1,
        (client.askAll after (client.askAll before s).2).2) := by
  induction before generalizing s with
  | nil => rfl
  | cons r before ih => simp only [List.cons_append, askAll, ih]

theorem map_fst_replies (client? : Option (Client σ)) (requests : List Request) (s : σ) :
    (replies client? requests s).map Prod.fst = requests := by
  cases client? with
  | none => exact (List.map_map ..).trans (List.map_id _)
  | some client =>
      rw [replies]
      induction requests generalizing s with
      | nil => rfl
      | cons r requests ih => rw [askAll, List.map_cons, ih]

/-- Each request is asked for with those before it. -/
theorem mem_replies (client? : Option (Client σ)) (before : List Request) (r : Request)
    (after : List Request) (s : σ) :
    (r, replyAfter client? before r s) ∈ replies client? (before ++ r :: after) s := by
  cases client? with
  | none => exact List.mem_map.2 ⟨r, List.mem_append_right _ (.head _), rfl⟩
  | some client =>
      rw [replies, askAll_append]
      exact List.mem_append_right _ (.head _)

end Client

/-- Without a client all requests fail. -/
theorem entries?_replies_none (requests : List Request) (s : σ) :
    Reply.entries? (Client.replies none requests s) =
      some (requests.map fun r => (r, .failed StoreFault.noStore.message)) := by
  rw [Client.replies]
  induction requests with
  | nil => rfl
  | cons r requests ih =>
      rw [Reply.entries?] at ih ⊢
      rw [List.map_cons, List.mapM_cons, ih]
      rfl

/-! ### Settling, once the replies are known -/

section Settle

variable {client? : Option (Client σ)} {requests : List Request} {cache : Cache} {s : σ}

/-- When all replies came, their entries are put into the cache. -/
theorem settle_of_entries {entries : List (Request × Entry)}
    (h : Reply.entries? (Client.replies client? (cache.claimAll requests).1 s) = some entries) :
    (settle client? requests cache s).settlement =
        .finished (cache.claimAll requests).1.length ∧
      (settle client? requests cache s).cache =
        (cache.claimAll requests).2.insertAll entries := by
  cases client? with
  | none =>
      cases (entries?_replies_none _ s).symm.trans h
      exact ⟨rfl, rfl⟩
  | some client =>
      rw [Client.replies] at h
      simp only [settle, h, and_self]

/-- When one reply did not come, every claim is given back. -/
theorem settle_of_silent
    (h : Reply.entries? (Client.replies client? (cache.claimAll requests).1 s) = none) :
    (settle client? requests cache s).settlement = .cancelled ∧
      (settle client? requests cache s).cache =
        (cache.claimAll requests).2.releaseAll (cache.claimAll requests).1 := by
  cases client? with
  | none => cases (entries?_replies_none _ s).symm.trans h
  | some client =>
      rw [Client.replies] at h
      simp only [settle, h, and_self]

end Settle

/-! ### Entries under different keys -/

namespace Cache

/-- Of entries under different keys each stays. -/
theorem get?_insertAll_of_nodup (cache : Cache) {entries : List (Request × Entry)}
    (hdistinct : (Request.keys (entries.map Prod.fst)).Nodup) {e : Request × Entry}
    (he : e ∈ entries) : (cache.insertAll entries).get? e.1.key = some e.2 := by
  obtain ⟨before, after, rfl⟩ := List.append_of_mem he
  have hsplit : cache.insertAll (before ++ e :: after) =
      ((cache.insertAll before).insert e.1.key e.2).insertAll after :=
    List.foldl_append
  have hlater : e.1.key ∉ Request.keys (after.map Prod.fst) := by
    rw [List.map_append, Request.keys, List.map_append] at hdistinct
    exact (List.nodup_cons.1 (List.nodup_append.1 hdistinct).2.1).1
  rw [hsplit, get?_insertAll_of_notMem hlater, get?_insert, if_pos rfl]

/-- Entries for the claims leave every other key as it was before the claims. -/
theorem get?_insertAll_claimAll {cache : Cache} {requests : List Request}
    {entries : List (Request × Entry)}
    (hclaims : entries.map Prod.fst = (cache.claimAll requests).1)
    {key : String} (hkey : key ∉ Request.keys (cache.claimAll requests).1) :
    ((cache.claimAll requests).2.insertAll entries).get? key = cache.get? key := by
  rw [get?_insertAll_of_notMem (hclaims ▸ hkey), get?_claimAll, if_neg]
  exact fun h => hkey (mem_claimAll_iff.2 ⟨h.1, isFree_iff.1 h.2⟩)

/-- Giving back what is not awaited changes nothing. -/
theorem releaseAll_eq_self {cache : Cache} {requests : List Request}
    (h : ∀ key ∈ Request.keys requests, cache.get? key ≠ some .awaited) :
    cache.releaseAll requests = cache := by
  induction requests with
  | nil => rfl
  | cons r requests ih =>
      obtain ⟨hr, hothers⟩ := List.forall_mem_cons.1 h
      have hrelease : cache.release r.key = cache :=
        if_neg fun ha => hr (isAwaited_iff.1 ha)
      rw [releaseAll, List.foldl_cons, hrelease]
      exact ih hothers

end Cache

/-! ### What settling leaves -/

/-- What a round of settling leaves that is not cancelled: which requests it asked for, in turn, and
the cache before and after it. -/
structure Fills (client? : Option (Client σ)) (requests asked : List Request)
    (cache after : Cache) (s : σ) : Prop where
  /-- An entry that there was stays. -/
  kept : ∀ {key : String}, cache.get? key ≠ none → after.get? key = cache.get? key
  /-- A key without a request is left alone. -/
  untouched : ∀ {key : String}, key ∉ Request.keys requests → after.get? key = cache.get? key
  /-- A request without an entry is asked for and has the entry that its reply leaves. -/
  answered : ∀ {r : Request}, r ∈ requests → cache.get? r.key = none →
    ∃ before later entry, asked = before ++ r :: later ∧ after.get? r.key = some entry ∧
      (Client.replyAfter client? before r s).Leaves entry
  /-- Nothing is awaited that was not awaited before. -/
  awaited : ∀ {key : String}, after.get? key = some .awaited → cache.get? key = some .awaited
  /-- Letting go of the claims afterwards changes nothing. -/
  released : after.releaseAll asked = after
  /-- No key is asked for twice. -/
  distinct : (Request.keys asked).Nodup
  /-- What is asked for are the keys that have an entry now and had none. -/
  added : ∀ {key : String},
    key ∈ Request.keys asked ↔ cache.get? key = none ∧ after.get? key ≠ none

/-- A request for a key that is claimed is the one that is claimed. -/
theorem Cache.mem_claimAll {cache : Cache} {requests : List Request} {r : Request}
    (hr : r ∈ requests) (hfree : cache.get? r.key = none) : r ∈ (cache.claimAll requests).1 := by
  obtain ⟨claimed, hclaimed, hkey⟩ :=
    List.mem_map.1 (Cache.mem_claimAll_iff.2 ⟨List.mem_map_of_mem hr, hfree⟩)
  exact Request.key_injective hkey ▸ hclaimed

section Finished

variable {client? : Option (Client σ)} {requests : List Request} {cache : Cache} {s : σ}
  {count : Nat} (h : (settle client? requests cache s).settlement = .finished count)

include h

/-- Settling that finishes counts its claims and puts an entry under the key of each of them, which
is that of its own reply. -/
theorem exists_entries_of_finished :
    ∃ entries : List (Request × Entry),
      count = (cache.claimAll requests).1.length ∧
      entries.map Prod.fst = (cache.claimAll requests).1 ∧
      (settle client? requests cache s).cache = (cache.claimAll requests).2.insertAll entries ∧
      ∀ before r later, (cache.claimAll requests).1 = before ++ r :: later →
        ∃ entry, (r, entry) ∈ entries ∧ (Client.replyAfter client? before r s).Leaves entry := by
  cases hentries : Reply.entries? (Client.replies client? (cache.claimAll requests).1 s) with
  | none => cases h.symm.trans (settle_of_silent hentries).1
  | some entries =>
      obtain ⟨hcount, hafter⟩ := settle_of_entries hentries
      refine ⟨entries, Settlement.finished.inj (h.symm.trans hcount), ?_, hafter, ?_⟩
      · exact (Reply.map_fst_entries? hentries).trans (Client.map_fst_replies client? _ s)
      · intro before r later hsplit
        have hreply := Client.mem_replies client? before r later s
        rw [← hsplit] at hreply
        exact Reply.exists_mem_entries? hentries hreply

/-- A claim has the entry of its own reply. -/
theorem get?_settle_of_claimed {before later : List Request} {r : Request}
    (hsplit : (cache.claimAll requests).1 = before ++ r :: later) :
    ∃ entry, (settle client? requests cache s).cache.get? r.key = some entry ∧
      (Client.replyAfter client? before r s).Leaves entry := by
  obtain ⟨entries, -, hclaims, hafter, hreplies⟩ := exists_entries_of_finished h
  obtain ⟨entry, hmem, hleaves⟩ := hreplies before r later hsplit
  have hdistinct := cache.nodup_claimAll requests
  rw [← hclaims] at hdistinct
  refine ⟨entry, ?_, hleaves⟩
  rw [hafter, Cache.get?_insertAll_of_nodup _ hdistinct hmem]

/-- What is not claimed is left alone. -/
theorem get?_settle_of_unclaimed {key : String}
    (hkey : key ∉ Request.keys (cache.claimAll requests).1) :
    (settle client? requests cache s).cache.get? key = cache.get? key := by
  obtain ⟨entries, -, hclaims, hafter, -⟩ := exists_entries_of_finished h
  rw [hafter, Cache.get?_insertAll_claimAll hclaims hkey]

theorem settled_settle_of_claimed {key : String}
    (hkey : key ∈ Request.keys (cache.claimAll requests).1) :
    (settle client? requests cache s).cache.Settled key := by
  obtain ⟨r, hr, rfl⟩ := List.mem_map.1 hkey
  obtain ⟨before, later, hsplit⟩ := List.append_of_mem hr
  obtain ⟨entry, hentry, hleaves⟩ := get?_settle_of_claimed h hsplit
  exact ⟨entry, hentry, hleaves.ne_awaited⟩

/-- **What settling leaves.**  Settling that is not cancelled leaves every entry that there was and
every key without a request as they were.  Each request of which nothing was known has an entry
afterwards, which is what its own reply leaves, and settling counts the keys of these requests. -/
theorem settle_fills :
    Fills client? requests (cache.claimAll requests).1 cache
        (settle client? requests cache s).cache s ∧
      count = (cache.claimAll requests).1.length := by
  obtain ⟨-, hcount, -⟩ := exists_entries_of_finished h
  refine ⟨?_, hcount⟩
  exact {
    kept := fun hknown =>
      get?_settle_of_unclaimed h fun hkey => hknown (Cache.mem_claimAll_iff.1 hkey).2
    untouched := fun hkey =>
      get?_settle_of_unclaimed h fun hm => hkey (Cache.mem_claimAll_iff.1 hm).1
    answered := fun hr hfree => by
      obtain ⟨before, later, hsplit⟩ := List.append_of_mem (Cache.mem_claimAll hr hfree)
      obtain ⟨entry, hentry, hleaves⟩ := get?_settle_of_claimed h hsplit
      exact ⟨before, later, entry, hsplit, hentry, hleaves⟩
    awaited := fun {key} ha => by
      by_cases hkey : key ∈ Request.keys (cache.claimAll requests).1
      · exact absurd ha (settled_settle_of_claimed h hkey).ne_awaited
      · rwa [get?_settle_of_unclaimed h hkey] at ha
    released := Cache.releaseAll_eq_self fun key hkey =>
      (settled_settle_of_claimed h hkey).ne_awaited
    distinct := cache.nodup_claimAll requests
    added := fun {key} => by
      constructor
      · intro hkey
        exact ⟨(Cache.mem_claimAll_iff.1 hkey).2, (settled_settle_of_claimed h hkey).ne_none⟩
      · rintro ⟨hfree, hknown⟩
        by_contra hkey
        exact hknown ((get?_settle_of_unclaimed h hkey).trans hfree) }

end Finished

/-- A store that has one record, crashes on another one and refuses the rest. -/
def moodyStore : Client Unit where
  find id s :=
    (if id = "a" then .answer (.create "a" "")
      else if id = "b" then .crashed (.message "lost") else .refused (.noRecord id), s)
  select _ s := (.silent, s)

/-- One request is awaited and one has failed before. -/
def halfKnown : Cache :=
  (Cache.empty.claim (Request.one "w").key).insert (Request.one "f").key (.failed "gone")

/-- Requests for all that the store knows and all that is known already, one of them twice. -/
def mixedRequests : List Request :=
  [.one "w", .one "a", .one "b", .one "a", .one "f", .one "c"]

theorem settle_fills_mixedRequests :
    (settle (some moodyStore) mixedRequests halfKnown ()).settlement = .finished 3 ∧
      ∃ after, (settle (some moodyStore) mixedRequests halfKnown ()).cache = after ∧
        after.get? (Request.one "a").key = some (.ready (Record.create "a" "").toValue) ∧
        after.get? (Request.one "b").key = some (.failed "lost") ∧
        after.get? (Request.one "c").key = some (.failed (StoreFault.noRecord "c").message) ∧
        after.get? (Request.one "w").key = some .awaited := by
  have hfinished : (settle (some moodyStore) mixedRequests halfKnown ()).settlement =
      .finished 3 := by
    decide +kernel
  have hfree {id : String} (h : halfKnown.isFree (Request.one id).key = true) :
      halfKnown.get? (Request.one id).key = none :=
    Cache.isFree_iff.1 h
  have hawaited : halfKnown.get? (Request.one "w").key = some .awaited :=
    Cache.isAwaited_iff.1 (by decide +kernel)
  obtain ⟨hfills, -⟩ := settle_fills hfinished
  refine ⟨hfinished, _, rfl, ?_, ?_, ?_, ?_⟩
  · obtain ⟨_, _, _, -, hentry, ⟨⟩⟩ :=
      hfills.answered (r := .one "a") (by decide) (hfree (by decide +kernel))
    exact hentry
  · obtain ⟨_, _, _, -, hentry, ⟨⟩⟩ :=
      hfills.answered (r := .one "b") (by decide) (hfree (by decide +kernel))
    exact hentry
  · obtain ⟨_, _, _, -, hentry, ⟨⟩⟩ :=
      hfills.answered (r := .one "c") (by decide) (hfree (by decide +kernel))
    exact hentry
  · exact (hfills.kept (hawaited ▸ nofun)).trans hawaited

end ViewTree
