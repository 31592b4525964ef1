import Mathlib.Logic.ExistsUnique
import ViewTree.Data.Claims
import ViewTree.Proofs.Cache.Claiming

/-!
# Cache — holders and what they hold

Several holders claim requests from one cache, answers and failures come in under any key, and
holders let go, all in any order.  `Event` is one such step, `run` any sequence of them.

* `Exclusive`: every holder holds a key once and no two hold the same, what is held is known, and
  what is awaited is held.  Every event that takes no entry away keeps this (`exclusive_step`).
* `settled_step`: such an event leaves a settled key settled.
* `run_exclusive`: so after any sequence of such events the holders share no key, each awaited key
  has exactly one holder, and nothing is awaited once nobody holds anything.
-/

namespace ViewTree.Claims

/-! ### Events -/

/-- What can happen to a cache and its holders. -/
inductive Event where
  | claim (holder : String) (requests : List Request)
  | answer (key : String) (value : Value)
  | fail (key message : String)
  | forget (key : String)
  | forgetAll
  /-- A holder lets go. -/
  | drop (holder : String)

/-- Whether an event takes entries away whoever waits for them. -/
def Event.forgets : Event → Bool
  | forget _ => true
  | forgetAll => true
  | _ => false

/-- The claims after an event. -/
def step (c : Claims) : Event → Claims
  | .claim holder requests => c.claimAll holder requests
  | .answer key value => c.updateCache fun cache => cache.insert key (.ready value)
  | .fail key message => c.updateCache fun cache => cache.insert key (.failed message)
  | .forget key => c.updateCache fun cache => cache.forget key
  | .forgetAll => c.updateCache fun _ => .empty
  | .drop holder => c.drop holder

/-- The claims after some events, from a cache that knows nothing. -/
def run (events : List Event) : Claims :=
  events.foldl step (ofCache .empty)

theorem run_append (before after : List Event) :
    run (before ++ after) = after.foldl step (run before) :=
  List.foldl_append

/-! ### What an event does to holders and entries -/

theorem held_drop (c : Claims) (holder other : String) :
    (c.drop holder).held other = if holder = other then [] else c.held other := by
  rw [held, drop, Fields.get?_erase]
  split <;> rfl

theorem get?_drop (c : Claims) (holder key : String) :
    (c.drop holder).cache.get? key =
      if key ∈ Request.keys (c.held holder) ∧ c.cache.isAwaited key then none
      else c.cache.get? key :=
  Cache.get?_releaseAll _ _ _

theorem held_claimAll (c : Claims) (holder other : String) (requests : List Request) :
    (c.claimAll holder requests).held other =
      if holder = other then (c.cache.claimAll requests).1 else c.held other := by
  rw [held, claimAll, Fields.get?_insert, drop, Fields.get?_erase]
  split <;> rfl

/-- A claim takes what is free; what the holder held before is given back, and with it everything
awaited under the same keys. -/
theorem get?_claimAll (c : Claims) (holder key : String) (requests : List Request) :
    (c.claimAll holder requests).cache.get? key =
      if key ∈ Request.keys (c.held holder) ∧ (c.cache.claimAll requests).2.isAwaited key then none
      else (c.cache.claimAll requests).2.get? key :=
  Cache.get?_releaseAll _ _ _

/-! ### Exclusive claims -/

/-- Each key has at most one holder; what is held is known and what is awaited is held. -/
structure Exclusive (c : Claims) : Prop where
  /-- No holder holds a key twice. -/
  nodup : ∀ holder, (Request.keys (c.held holder)).Nodup
  /-- No two holders hold the same key. -/
  apart : ∀ {holder other key : String}, key ∈ Request.keys (c.held holder) →
    key ∈ Request.keys (c.held other) → holder = other
  /-- Something is known under every key that is held. -/
  known : ∀ {holder key : String}, key ∈ Request.keys (c.held holder) → c.cache.get? key ≠ none
  /-- Every key that is awaited is held. -/
  claimed : ∀ {key : String}, c.cache.get? key = some .awaited →
    ∃ holder, key ∈ Request.keys (c.held holder)

theorem exclusive_empty : Exclusive (ofCache .empty) where
  nodup _ := List.nodup_nil
  apart h := absurd h List.not_mem_nil
  known h := absurd h List.not_mem_nil
  claimed h := nomatch h

/-- What comes in under a key changes no holder and leaves nothing to wait for there. -/
theorem Exclusive.insert {c : Claims} (h : Exclusive c) (key : String) {entry : Entry}
    (he : entry ≠ .awaited) : Exclusive (c.updateCache fun cache => cache.insert key entry) where
  nodup := h.nodup
  apart := h.apart
  known {_ other} hk := by
    rw [updateCache, Cache.get?_insert]
    split
    · exact nofun
    · exact h.known hk
  claimed {other} ha := by
    rw [updateCache, Cache.get?_insert] at ha
    split at ha
    · exact absurd (Option.some.inj ha) he
    · exact h.claimed ha

theorem Exclusive.drop {c : Claims} (h : Exclusive c) (holder : String) :
    Exclusive (c.drop holder) where
  nodup other := by
    rw [held_drop]
    split
    · exact List.nodup_nil
    · exact h.nodup other
  apart {a b key} ha hb := by
    rw [held_drop] at ha hb
    split at ha
    · exact absurd ha List.not_mem_nil
    · split at hb
      · exact absurd hb List.not_mem_nil
      · exact h.apart ha hb
  known {a key} ha := by
    rw [held_drop] at ha
    split at ha
    · exact absurd ha List.not_mem_nil
    · next hne =>
        rw [get?_drop, if_neg fun hr => hne (h.apart hr.1 ha)]
        exact h.known ha
  claimed {key} ha := by
    rw [get?_drop] at ha
    split at ha
    · cases ha
    · next hr =>
        obtain ⟨other, ho⟩ := h.claimed ha
        refine ⟨other, ?_⟩
        rw [held_drop, if_neg]
        · exact ho
        · rintro rfl
          exact hr ⟨ho, Cache.isAwaited_iff.2 ha⟩

theorem Exclusive.claimAll {c : Claims} (h : Exclusive c) (holder : String)
    (requests : List Request) : Exclusive (c.claimAll holder requests) := by
  -- a key claimed now was free, so nobody held it
  have fresh : ∀ {key other}, key ∈ Request.keys (c.cache.claimAll requests).1 →
      key ∉ Request.keys (c.held other) := fun hk ho =>
    h.known ho (Cache.mem_claimAll_iff.1 hk).2
  have same : ∀ {key}, c.cache.get? key ≠ none →
      (c.cache.claimAll requests).2.get? key = c.cache.get? key := fun hk => by
    rw [Cache.get?_claimAll, if_neg fun hf => hk (Cache.isFree_iff.1 hf.2)]
  refine ⟨fun other => ?_, fun {a b key} ha hb => ?_, fun {a key} ha => ?_, fun {key} ha => ?_⟩
  -- once
  · rw [held_claimAll]
    split
    · exact Cache.nodup_claimAll _ _
    · exact h.nodup other
  -- apart: a key is held from now, held from before, or both at once
  · rw [held_claimAll] at ha hb
    split at ha <;> split at hb
    · next e₁ e₂ => exact e₁.symm.trans e₂
    · exact absurd hb (fresh ha)
    · exact absurd ha (fresh hb)
    · exact h.apart ha hb
  -- known: giving back touches no key of another holder
  · rw [held_claimAll] at ha
    rw [get?_claimAll]
    split at ha
    · obtain ⟨hm, hn⟩ := Cache.mem_claimAll_iff.1 ha
      rw [if_neg fun hr => fresh ha hr.1, Cache.get?_claimAll,
        if_pos ⟨hm, Cache.isFree_iff.2 hn⟩]
      exact nofun
    · next hne =>
        rw [if_neg fun hr => hne (h.apart hr.1 ha), same (h.known ha)]
        exact h.known ha
  -- claimed: awaited since now or since before
  · rw [get?_claimAll] at ha
    split at ha
    · cases ha
    · next hr =>
        by_cases hf : key ∈ Request.keys requests ∧ c.cache.isFree key = true
        · refine ⟨holder, ?_⟩
          rw [held_claimAll, if_pos rfl]
          exact Cache.mem_claimAll_iff.2 ⟨hf.1, Cache.isFree_iff.1 hf.2⟩
        · have hc : c.cache.get? key = some .awaited := by
            rwa [Cache.get?_claimAll, if_neg hf] at ha
          obtain ⟨other, ho⟩ := h.claimed hc
          refine ⟨other, ?_⟩
          rw [held_claimAll, if_neg]
          · exact ho
          · rintro rfl
            exact hr ⟨ho, Cache.isAwaited_iff.2 ha⟩

/-- **One event.**  Claims stay exclusive as long as no entry is taken away from its holder. -/
theorem exclusive_step {c : Claims} (h : Exclusive c) {e : Event} (he : e.forgets = false) :
    Exclusive (c.step e) := by
  cases e with
  | claim holder requests => exact h.claimAll holder requests
  | answer key value => exact h.insert key nofun
  | fail key message => exact h.insert key nofun
  | forget key => cases he
  | forgetAll => cases he
  | drop holder => exact h.drop holder

/-- A settled key stays settled through every event that takes no entry away. -/
theorem settled_step {c : Claims} {key : String} (h : c.cache.Settled key) {e : Event}
    (he : e.forgets = false) : (c.step e).cache.Settled key := by
  have put : ∀ {other entry}, entry ≠ .awaited → (c.cache.insert other entry).Settled key :=
    fun {other entry} hs => by
      by_cases e : other = key
      · exact ⟨entry, by rw [Cache.get?_insert, if_pos e], hs⟩
      · exact h.congr (by rw [Cache.get?_insert, if_neg e])
  cases e with
  | claim holder requests =>
      have hc : (c.cache.claimAll requests).2.get? key = c.cache.get? key := by
        rw [Cache.get?_claimAll, if_neg fun hf => h.ne_none (Cache.isFree_iff.1 hf.2)]
      refine h.congr ?_
      rw [step, get?_claimAll, hc, if_neg]
      rw [Cache.isAwaited_iff, hc]
      exact fun hr => h.ne_awaited hr.2
  | answer other value => exact put nofun
  | fail other message => exact put nofun
  | forget other => cases he
  | forgetAll => cases he
  | drop holder =>
      refine h.congr ?_
      rw [step, get?_drop, if_neg fun hr => h.ne_awaited (Cache.isAwaited_iff.1 hr.2)]

/-! ### Runs -/

theorem exclusive_foldl {events : List Event} (he : ∀ e ∈ events, e.forgets = false) {c : Claims}
    (h : Exclusive c) : Exclusive (events.foldl step c) := by
  induction events generalizing c with
  | nil => exact h
  | cons e events ih =>
      obtain ⟨hhead, htail⟩ := List.forall_mem_cons.1 he
      exact ih htail (exclusive_step h hhead)

theorem settled_foldl {events : List Event} (he : ∀ e ∈ events, e.forgets = false) {c : Claims}
    {key : String} (h : c.cache.Settled key) : (events.foldl step c).cache.Settled key := by
  induction events generalizing c with
  | nil => exact h
  | cons e events ih =>
      obtain ⟨hhead, htail⟩ := List.forall_mem_cons.1 he
      exact ih htail (settled_step h hhead)

/-- **Claims are exclusive without invalidation.**  After any sequence of claims, results and
drops from an empty cache: no holder holds a key twice and no two holders hold the same one;
every awaited key has exactly one holder; a key that was settled at some time is settled; and if
nobody holds anything, nothing is awaited. -/
theorem run_exclusive (events : List Event) (he : ∀ e ∈ events, e.forgets = false) :
    (∀ holder, (Request.keys ((run events).held holder)).Nodup) ∧
    (∀ holder other, holder ≠ other → ∀ key ∈ Request.keys ((run events).held holder),
      key ∉ Request.keys ((run events).held other)) ∧
    (∀ key, (run events).cache.get? key = some .awaited →
      ∃! holder, key ∈ Request.keys ((run events).held holder)) ∧
    (∀ before after, events = before ++ after → ∀ key, (run before).cache.Settled key →
      (run events).cache.Settled key) ∧
    ((run events).holders = [] → ∀ key, (run events).cache.get? key ≠ some .awaited) := by
  have h : Exclusive (run events) := exclusive_foldl he exclusive_empty
  refine ⟨h.nodup, ?_, ?_, ?_, ?_⟩
  · intro holder other hne key ha hb
    exact hne (h.apart ha hb)
  · intro key ha
    obtain ⟨holder, hh⟩ := h.claimed ha
    exact ⟨holder, hh, fun other ho => h.apart ho hh⟩
  · rintro before after rfl key hs
    rw [run_append]
    exact settled_foldl (fun e hm => he e (List.mem_append_right _ hm)) hs
  · intro hnil key ha
    obtain ⟨holder, hh⟩ := h.claimed ha
    rw [held, hnil] at hh
    exact absurd hh List.not_mem_nil

/-- Two holders that ask for a request in common; the first one is gone. -/
theorem run_exclusive_overlap :
    let events : List Event :=
      [.claim "first" [.one "a", .one "b", .one "a"], .claim "second" [.one "b", .one "c"],
        .answer (Request.one "a").key .null, .drop "first"]
    (∀ e ∈ events, e.forgets = false) ∧
      ∃! holder, (Request.one "c").key ∈ Request.keys ((run events).held holder) :=
  ⟨by decide,
    (run_exclusive _ (by decide)).2.2.1 _ (Cache.isAwaited_iff.1 (by decide +kernel))⟩

end ViewTree.Claims
