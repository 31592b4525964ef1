import Mathlib.Data.List.Nodup
import ViewTree.Proofs.Cache.Settling
import ViewTree.Proofs.Render.Visits

/-!
# Render — how often a client is asked

A renderer is used for any sequence of renders, rounds of settling and invalidations over one
cache.  Settling asks the client exactly for what it claims, a claim is made only of what nothing
is known of, and whatever the reply is an entry is kept of it.  So the questions under a key stand
against its entry and the entries that were taken away (`Fetches`): a key is asked for once, and
once more for each time that an invalidation took its entry away.

* `Client.recording`: the client that also writes down what it is asked.
* `fetches_settle`, `settleRounds_recording`: what a round asks for, and any number of rounds.
* `operate_recording`: what each way to use a renderer asks for.
* `run_recording`, `run_fetches`: the count over any sequence of them.
-/

namespace ViewTree

variable {σ : Type}

/-! ### What a client is asked -/

namespace Client

/-- The client that also writes down what it is asked, each request after the earlier ones. -/
def recording (client : Client σ) : Client (σ × List Request) where
  find id := fun (s, asked) =>
    let (reply, s) := client.find id s
    (reply, s, asked ++ [.one id])
  select query := fun (s, asked) =>
    let (reply, s) := client.select query s
    (reply, s, asked ++ [.several query])

theorem Completes.of_mem_some {client : Client σ} (h : client.Completes) :
    ∀ c ∈ some client, c.Completes :=
  fun _ hc => Option.mem_some.1 hc ▸ h

theorem ask_recording (client : Client σ) (request : Request) (s : σ) (asked : List Request) :
    client.recording.ask request (s, asked) =
      ((client.ask request s).1, (client.ask request s).2, asked ++ [request]) := by
  cases request <;> rfl

theorem askAll_recording (client : Client σ) (requests : List Request) (s : σ)
    (asked : List Request) :
    client.recording.askAll requests (s, asked) =
      ((client.askAll requests s).1, (client.askAll requests s).2, asked ++ requests) := by
  induction requests generalizing s asked with
  | nil => rw [askAll, askAll, List.append_nil]
  | cons r rs ih => simp only [askAll, ask_recording, ih, List.append_assoc, List.singleton_append]

end Client

/-- Settling asks the client for what it claims. -/
theorem settle_recording (client : Client σ) (requests : List Request) (cache : Cache) (s : σ)
    (asked : List Request) :
    settle (some client.recording) requests cache (s, asked) =
      let settled := settle (some client) requests cache s
      ⟨settled.settlement, settled.cache, settled.state,
        asked ++ (cache.claimAll requests).1⟩ := by
  simp only [settle, Client.askAll_recording]
  cases Reply.entries? (client.askAll (cache.claimAll requests).1 s).1 <;> rfl

/-! ### Questions and entries -/

namespace Cache

/-- How many entries there are under a key, one or none. -/
def entriesUnder (cache : Cache) (key : String) : Nat :=
  (!cache.isFree key).toNat

theorem entriesUnder_of_free {cache : Cache} {key : String} (h : cache.get? key = none) :
    cache.entriesUnder key = 0 := by
  rw [entriesUnder, isFree_iff.2 h]
  rfl

theorem entriesUnder_of_known {cache : Cache} {key : String} (h : cache.get? key ≠ none) :
    cache.entriesUnder key = 1 := by
  have hf : cache.isFree key = false := Bool.eq_false_iff.2 fun hf => h (isFree_iff.1 hf)
  rw [entriesUnder, hf]
  rfl

theorem entriesUnder_congr {cache after : Cache} {key : String}
    (h : after.get? key = cache.get? key) : after.entriesUnder key = cache.entriesUnder key := by
  rw [entriesUnder, isFree, h]
  rfl

end Cache

/-- One cache comes from another by asking for some requests and taking some entries away under each
key: each question brought an entry where there was none, and nothing is awaited that was not
awaited before. -/
structure Fetches (before after : Cache) (asked : List Request) (removed : String → Nat) :
    Prop where
  counted : ∀ key, (Request.keys asked).count key + before.entriesUnder key =
    after.entriesUnder key + removed key
  awaited : ∀ key, after.get? key = some .awaited → before.get? key = some .awaited

namespace Fetches

theorem refl (cache : Cache) : Fetches cache cache [] fun _ => 0 :=
  ⟨fun _ => Nat.zero_add _, fun _ h => h⟩

theorem trans {before between after : Cache} {asked more : List Request}
    {removed gone : String → Nat} (h : Fetches before between asked removed)
    (t : Fetches between after more gone) :
    Fetches before after (asked ++ more) fun key => removed key + gone key := by
  refine ⟨fun key => ?_, fun key ha => h.awaited key (t.awaited key ha)⟩
  have hsplit : (Request.keys (asked ++ more)).count key =
      (Request.keys asked).count key + (Request.keys more).count key := by
    rw [Request.keys, List.map_append, List.count_append]
    rfl
  have hfirst := h.counted key
  have hsecond := t.counted key
  omega

end Fetches

variable {client : Client σ} (hc : client.Completes)

include hc

/-- **A round asks once for each key that it brings an entry of.** -/
theorem fetches_settle (requests : List Request) (cache : Cache) (s : σ) :
    Fetches cache (settle (some client) requests cache s).cache (cache.claimAll requests).1
      fun _ => 0 := by
  have hall := hc.of_mem_some
  refine ⟨fun key => ?_, fun key => awaited_of_settle hall⟩
  by_cases hk : key ∈ Request.keys (cache.claimAll requests).1
  · obtain ⟨hm, hfree⟩ := Cache.mem_claimAll_iff.1 hk
    rw [List.count_eq_one_of_mem (Cache.nodup_claimAll cache requests) hk,
      Cache.entriesUnder_of_free hfree,
      Cache.entriesUnder_of_known (settled_settle hall hm hfree s).ne_none]
  · have hsame : (settle (some client) requests cache s).cache.get? key = cache.get? key := by
      by_cases hm : key ∈ Request.keys requests
      · -- a key that is asked for in vain is known already
        refine get?_settle_of_ne_none hall (fun hfree => hk ?_) requests s
        exact Cache.mem_claimAll_iff.2 ⟨hm, hfree⟩
      · exact get?_settle_of_notMem hall hm cache s
    rw [List.count_eq_zero_of_not_mem hk, Nat.zero_add, Cache.entriesUnder_congr hsame,
      Nat.add_zero]

namespace Renderer

/-- Any number of rounds asks for what they bring entries of, and is not disturbed by the
record. -/
theorem settleRounds_recording (r : Renderer) (v : Value) (scope : Scope) (rounds : Nat)
    (surface : Surface) (cache : Cache) (s : σ) (asked : List Request) :
    let rendered := r.settleRounds (some client) v scope rounds surface cache s
    ∃ more, Fetches cache rendered.cache more (fun _ => 0) ∧
      r.settleRounds (some client.recording) v scope rounds surface cache (s, asked) =
        ⟨rendered.surface, rendered.cache, rendered.state, asked ++ more⟩ := by
  induction rounds generalizing surface cache s asked with
  | zero => exact ⟨[], .refl cache, by rw [List.append_nil]; rfl⟩
  | succ rounds ih =>
      have hcount : (settle (some client) surface.requests cache s).settlement =
          .finished (cache.claimAll surface.requests).1.length :=
        settlement_settle hc.of_mem_some surface.requests cache s
      have hround := fetches_settle hc surface.requests cache s
      simp only [settleRounds, settle_recording, hcount]
      by_cases hnil : surface.requests.isEmpty = true
      · simp only [hnil, if_true]
        exact ⟨[], .refl cache, by rw [List.append_nil]⟩
      · simp only [hnil, if_false, Bool.false_eq_true]
        cases hlen : (cache.claimAll surface.requests).1.length with
        | zero => exact ⟨_, hround, rfl⟩
        | succ count =>
            obtain ⟨more, hmore, heq⟩ := ih
              (r.render (settle (some client) surface.requests cache s).cache v scope)
              (settle (some client) surface.requests cache s).cache
              (settle (some client) surface.requests cache s).state
              (asked ++ (cache.claimAll surface.requests).1)
            refine ⟨_, hround.trans hmore, ?_⟩
            simp only [heq, List.append_assoc]

omit hc

/-! ### A renderer in use -/

/-- A way to use a renderer. -/
inductive Operation where
  | settle (requests : List Request)
  | renderAndSettle (v : Value) (scope : Scope)
  | render (v : Value) (scope : Scope)
  /-- Takes the entry of a request away. -/
  | forget (request : Request)
  | forgetAll

/-- Whether an operation takes an entry away that there is under a key. -/
def Operation.removes (cache : Cache) (key : String) : Operation → Bool
  | forget request => request.key == key && !cache.isFree key
  | forgetAll => !cache.isFree key
  | _ => false

/-- The cache of a renderer in use, and the state of its client. -/
structure Use (σ : Type) where
  cache : Cache
  state : σ

/-- What an operation leaves. -/
def operate (r : Renderer) (client : Client σ) (u : Use σ) : Operation → Use σ
  | .settle requests =>
    let settled := ViewTree.settle (some client) requests u.cache u.state
    ⟨settled.cache, settled.state⟩
  | .renderAndSettle v scope =>
    let rendered := r.renderAndSettle (some client) v scope u.cache u.state
    ⟨rendered.cache, rendered.state⟩
  | .render _ _ => u
  | .forget request => ⟨u.cache.forget request.key, u.state⟩
  | .forgetAll => ⟨.empty, u.state⟩

/-- What some operations leave. -/
def run (r : Renderer) (client : Client σ) (operations : List Operation) (u : Use σ) : Use σ :=
  operations.foldl (operate r client) u

/-- How many of some operations take an entry away that there is under a key. -/
def removals (r : Renderer) (client : Client σ) (key : String) : List Operation → Use σ → Nat
  | [], _ => 0
  | o :: os, u => (o.removes u.cache key).toNat + removals r client key os (operate r client u o)

/-- A renderer in use with the questions written down. -/
def Use.withAsked (u : Use σ) (asked : List Request) : Use (σ × List Request) :=
  ⟨u.cache, u.state, asked⟩

/-- Taking the entry of a request away. -/
theorem fetches_forget (cache : Cache) (request : Request) :
    Fetches cache (cache.forget request.key) []
      fun key => ((Operation.forget request).removes cache key).toNat := by
  refine ⟨fun key => ?_, fun key h => ?_⟩
  · show 0 + cache.entriesUnder key = (cache.forget request.key).entriesUnder key +
      (request.key == key && !cache.isFree key).toNat
    by_cases hkey : request.key = key
    · have hgone : (cache.forget request.key).get? key = none := by
        rw [Cache.get?_forget, if_pos hkey]
      rw [Cache.entriesUnder_of_free hgone, beq_iff_eq.2 hkey, Bool.true_and, Cache.entriesUnder]
    · have hsame : (cache.forget request.key).get? key = cache.get? key := by
        rw [Cache.get?_forget, if_neg hkey]
      rw [Cache.entriesUnder_congr hsame, beq_eq_false_iff_ne.2 hkey, Bool.false_and]
      exact Nat.zero_add _
  · rw [Cache.get?_forget] at h
    split at h
    · cases h
    · exact h

/-- Taking every entry away. -/
theorem fetches_forgetAll (cache : Cache) :
    Fetches cache .empty [] fun key => (Operation.forgetAll.removes cache key).toNat := by
  refine ⟨fun key => ?_, fun key h => nomatch h⟩
  show 0 + cache.entriesUnder key = Cache.empty.entriesUnder key + (!cache.isFree key).toNat
  rw [Cache.entriesUnder_of_free (Cache.get?_empty key), Cache.entriesUnder]

/-- **One operation.**  What it asks for under a key makes up for the entry that there is after it
or that it takes away. -/
theorem operate_recording (hc : client.Completes) (r : Renderer) (u : Use σ)
    (asked : List Request) (o : Operation) :
    ∃ more, operate r client.recording (u.withAsked asked) o =
        (operate r client u o).withAsked (asked ++ more) ∧
      Fetches u.cache (operate r client u o).cache more
        fun key => (o.removes u.cache key).toNat := by
  cases o with
  | settle requests =>
      refine ⟨_, ?_, fetches_settle hc requests u.cache u.state⟩
      simp only [operate, Use.withAsked, settle_recording]
  | renderAndSettle v scope =>
      obtain ⟨more, h, heq⟩ := settleRounds_recording hc r v scope
        r.settings.maxSettleRounds.toNat (r.render u.cache v scope) u.cache u.state asked
      refine ⟨more, ?_, h⟩
      simp only [operate, Use.withAsked, Renderer.renderAndSettle, heq]
  | render v scope => exact ⟨[], by rw [List.append_nil]; rfl, .refl u.cache⟩
  | forget request => exact ⟨[], by rw [List.append_nil]; rfl, fetches_forget u.cache request⟩
  | forgetAll => exact ⟨[], by rw [List.append_nil]; rfl, fetches_forgetAll u.cache⟩

/-- Operations one after the other, from any cache. -/
theorem run_recording (hc : client.Completes) (r : Renderer) (operations : List Operation)
    (u : Use σ) (asked : List Request) :
    ∃ more, run r client.recording operations (u.withAsked asked) =
        (run r client operations u).withAsked (asked ++ more) ∧
      Fetches u.cache (run r client operations u).cache more
        fun key => removals r client key operations u := by
  induction operations generalizing u asked with
  | nil => exact ⟨[], by rw [List.append_nil]; rfl, .refl u.cache⟩
  | cons o os ih =>
      obtain ⟨first, hfirst, hone⟩ := operate_recording hc r u asked o
      obtain ⟨rest, hrest, hmany⟩ := ih (operate r client u o) (asked ++ first)
      refine ⟨first ++ rest, ?_, hone.trans hmany⟩
      rw [run, List.foldl_cons, hfirst, ← List.append_assoc]
      exact hrest

/-- **A key is asked for once, and once more for each time that its entry was taken away.**  Used in
any way from an empty cache, with a client that completes, a renderer has asked for a key as often
as invalidations took an entry of it away, and once more if there is an entry of it now.  Nothing
is awaited between operations, and the record of the questions changes nothing else. -/
theorem run_fetches (r : Renderer) (client : Client σ) (hc : client.Completes)
    (operations : List Operation) (s : σ) :
    ∃ asked cache state,
      run r client operations ⟨.empty, s⟩ = ⟨cache, state⟩ ∧
      run r client.recording operations ⟨.empty, s, []⟩ = ⟨cache, state, asked⟩ ∧
      ∀ key,
        (Request.keys asked).count key =
          removals r client key operations ⟨.empty, s⟩ + cache.entriesUnder key ∧
        (Request.keys asked).count key ≤ 1 + removals r client key operations ⟨.empty, s⟩ ∧
        cache.get? key ≠ some .awaited := by
  obtain ⟨asked, heq, hfetches⟩ := run_recording hc r operations ⟨.empty, s⟩ []
  refine ⟨asked, _, _, rfl, heq, fun key => ?_⟩
  have h := hfetches.counted key
  rw [Cache.entriesUnder_of_free (Cache.get?_empty key), Nat.add_zero, Nat.add_comm] at h
  refine ⟨h, ?_, fun ha => nomatch hfetches.awaited key ha⟩
  rw [h, Nat.add_comm]
  exact Nat.add_le_add_right (Bool.toNat_le _) _

/-- A record that is asked for in several ways, is forgotten twice and asked for again, and another
one that is missing. -/
def askedAgain : List Operation :=
  [.settle [.one "a", .one "b", .one "a"], .renderAndSettle (loaderOf "a" (loaderOf "b" .null))
    .empty, .forget (.one "a"), .forget (.one "a"), .render (loaderOf "a" .null) .empty,
    .renderAndSettle (loaderOf "a" (loaderOf "b" .null)) .empty, .settle [.one "a"]]

theorem run_fetches_askedAgain :
    Store.client.Completes ∧ ∃ asked cache state,
      run (plain .default) Store.client.recording askedAgain
        ⟨.empty, ⟨[.create "a" ""]⟩, []⟩ = ⟨cache, state, asked⟩ ∧
      (Request.keys asked).count (Request.one "a").key ≤ 2 ∧
      (Request.keys asked).count (Request.one "b").key ≤ 1 ∧
      cache.get? (Request.one "a").key ≠ some .awaited := by
  obtain ⟨asked, cache, state, -, hrun, hkeys⟩ := run_fetches (plain .default) Store.client
    Store.client_completes askedAgain ⟨[.create "a" ""]⟩
  have ha : removals (plain .default) Store.client (Request.one "a").key askedAgain
      ⟨.empty, ⟨[.create "a" ""]⟩⟩ = 1 := by
    decide +kernel
  have hb : removals (plain .default) Store.client (Request.one "b").key askedAgain
      ⟨.empty, ⟨[.create "a" ""]⟩⟩ = 0 := by
    decide +kernel
  refine ⟨Store.client_completes, asked, cache, state, hrun, ?_, ?_, ?_⟩
  · have h := (hkeys (Request.one "a").key).2.1
    rwa [ha] at h
  · have h := (hkeys (Request.one "b").key).2.1
    rwa [hb] at h
  · exact (hkeys (Request.one "a").key).2.2

end Renderer

end ViewTree
