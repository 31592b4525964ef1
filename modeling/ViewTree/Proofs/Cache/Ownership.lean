import ViewTree.Proofs.Cache.Holders

/-!
# Cache — whose claim an awaited entry is

The cache does not record who claimed a key, so a holder that lets go of it releases whatever is
awaited there.  `Ledger` keeps beside the claims what the cache leaves out: the holder that put each
awaited entry (`owner`), and the keys that a holder claimed and that were free again at some time
since (`lost`).

* `sound_step`: an owner holds its key, and a key that a holder never lost has no other owner.
* `drop_other_iff`: so a holder that lets go takes away an entry of another holder if it claimed
  and lost the same key before, and only then.
* `not_drop_keeps_other`: this happens after an invalidation.
-/

namespace ViewTree.Claims

/-- The holder that claims in an event. -/
def Event.claimant? : Event → Option String
  | claim holder _ => some holder
  | _ => none

/-- Claims, with what the cache does not record. -/
structure Ledger where
  /-- The cache and its holders. -/
  claims : Claims
  /-- The holder that put the awaited entry under a key. -/
  owner : String → Option String
  /-- Whether nothing was known under a key at some time since a holder claimed. -/
  lost : String → String → Bool

namespace Ledger

/-- The ledger of a cache that knows nothing. -/
def empty : Ledger := ⟨ofCache .empty, fun _ => none, fun _ _ => false⟩

/-- The ledger after an event.  An entry that is awaited now and was not there before belongs to
the holder that claims. -/
def step (l : Ledger) (e : Event) : Ledger where
  claims := l.claims.step e
  owner key :=
    if (l.claims.step e).cache.isAwaited key then
      if l.claims.cache.isFree key then e.claimant? else l.owner key
    else none
  lost holder key :=
    (l.claims.step e).cache.isFree key || (l.lost holder key && e.claimant? != some holder)

/-- The ledger after some events, from a cache that knows nothing. -/
def run (events : List Event) : Ledger :=
  events.foldl step empty

/-- The ledger only watches. -/
theorem claims_run (events : List Event) : (run events).claims = Claims.run events := by
  suffices h : ∀ l : Ledger, (events.foldl step l).claims = events.foldl Claims.step l.claims from
    h empty
  intro l
  induction events generalizing l with
  | nil => rfl
  | cons e events ih => exact ih (l.step e)

end Ledger

/-! ### How entries come to be awaited -/

/-- Only a claim makes an entry awaited. -/
theorem claimed_of_awaited {c : Claims} {e : Event} {key : String}
    (ha : (c.step e).cache.get? key = some .awaited) (hf : c.cache.get? key ≠ some .awaited) :
    ∃ holder, e.claimant? = some holder ∧ c.cache.get? key = none ∧
      key ∈ Request.keys ((c.step e).held holder) := by
  cases e with
  | claim holder requests =>
      rw [step, get?_claimAll] at ha
      split at ha
      · cases ha
      · rw [Cache.get?_claimAll] at ha
        split at ha
        · next hc =>
            have hn := Cache.isFree_iff.1 hc.2
            refine ⟨holder, rfl, hn, ?_⟩
            rw [step, held_claimAll, if_pos rfl]
            exact Cache.mem_claimAll_iff.2 ⟨hc.1, hn⟩
        · exact absurd ha hf
  | answer other value =>
      rw [step, updateCache, Cache.get?_insert] at ha
      split at ha
      · cases ha
      · exact absurd ha hf
  | fail other message =>
      rw [step, updateCache, Cache.get?_insert] at ha
      split at ha
      · cases ha
      · exact absurd ha hf
  | forget other =>
      rw [step, updateCache, Cache.get?_forget] at ha
      split at ha
      · cases ha
      · exact absurd ha hf
  | forgetAll => cases ha
  | drop holder =>
      rw [step, get?_drop] at ha
      split at ha
      · cases ha
      · exact absurd ha hf

/-- A holder whose key is still awaited after an event still holds it. -/
theorem held_step {c : Claims} {e : Event} {holder key : String}
    (hh : key ∈ Request.keys (c.held holder)) (hb : c.cache.get? key = some .awaited)
    (ha : (c.step e).cache.get? key = some .awaited) :
    key ∈ Request.keys ((c.step e).held holder) := by
  cases e with
  | claim other requests =>
      rw [step, held_claimAll]
      split
      · next e =>
          subst e
          -- the holder gave back what it held before
          have hc : (c.cache.claimAll requests).2.get? key = some .awaited := by
            rw [Cache.get?_claimAll, if_neg]
            · exact hb
            · rw [Cache.isFree_iff, hb]
              rintro ⟨-, h⟩
              cases h
          rw [step, get?_claimAll, if_pos ⟨hh, Cache.isAwaited_iff.2 hc⟩] at ha
          cases ha
      · exact hh
  | answer other value => exact hh
  | fail other message => exact hh
  | forget other => exact hh
  | forgetAll => exact hh
  | drop other =>
      rw [step, held_drop]
      split
      · next e =>
          subst e
          rw [step, get?_drop, if_pos ⟨hh, Cache.isAwaited_iff.2 hb⟩] at ha
          cases ha
      · exact hh

/-- A holder that does not claim in an event gets no key by it. -/
theorem held_of_held_step {c : Claims} {e : Event} {holder key : String}
    (hne : e.claimant? ≠ some holder) (hh : key ∈ Request.keys ((c.step e).held holder)) :
    key ∈ Request.keys (c.held holder) := by
  cases e with
  | claim other requests =>
      rwa [step, held_claimAll, if_neg fun e => hne (congrArg some e)] at hh
  | answer other value => exact hh
  | fail other message => exact hh
  | forget other => exact hh
  | forgetAll => exact hh
  | drop other =>
      rw [step, held_drop] at hh
      split at hh
      · exact absurd hh List.not_mem_nil
      · exact hh

/-- What a holder holds after it claimed was free before. -/
theorem free_of_held_step {c : Claims} {e : Event} {holder key : String}
    (he : e.claimant? = some holder) (hh : key ∈ Request.keys ((c.step e).held holder)) :
    c.cache.get? key = none := by
  cases e with
  | claim other requests =>
      cases he
      rw [step, held_claimAll, if_pos rfl] at hh
      exact (Cache.mem_claimAll_iff.1 hh).2
  | _ => cases he

/-! ### Owners -/

namespace Ledger

/-- What the ledger says of owners is right: every awaited key has one, it holds the key, and a
key that a holder never lost is owned by no other. -/
structure Sound (l : Ledger) : Prop where
  /-- Every key that is awaited has an owner. -/
  owned : ∀ {key : String}, l.claims.cache.get? key = some .awaited →
    ∃ holder, l.owner key = some holder
  /-- What has an owner is awaited. -/
  awaited : ∀ {key holder : String}, l.owner key = some holder →
    l.claims.cache.get? key = some .awaited
  /-- An owner holds its key. -/
  held : ∀ {key holder : String}, l.owner key = some holder →
    key ∈ Request.keys (l.claims.held holder)
  /-- A key that its holder never lost is known. -/
  present : ∀ {key holder : String}, key ∈ Request.keys (l.claims.held holder) →
    l.lost holder key = false → l.claims.cache.get? key ≠ none
  /-- A key that its holder never lost has no other owner. -/
  kept : ∀ {key holder other : String}, key ∈ Request.keys (l.claims.held holder) →
    l.lost holder key = false → l.owner key = some other → other = holder

theorem sound_empty : Sound empty where
  owned h := nomatch h
  awaited h := nomatch h
  held h := nomatch h
  present h := absurd h List.not_mem_nil
  kept h := absurd h List.not_mem_nil

theorem owner_step (l : Ledger) (e : Event) (key : String) :
    (l.step e).owner key =
      if (l.claims.step e).cache.isAwaited key then
        if l.claims.cache.isFree key then e.claimant? else l.owner key
      else none := rfl

theorem lost_step_eq_false_iff {l : Ledger} {e : Event} {holder key : String} :
    (l.step e).lost holder key = false ↔
      (l.claims.step e).cache.get? key ≠ none ∧
        (l.lost holder key = false ∨ e.claimant? = some holder) := by
  simp only [step, Bool.or_eq_false_iff, Bool.and_eq_false_iff, bne_eq_false_iff_eq, ne_eq,
    ← Cache.isFree_iff, Bool.not_eq_true]

/-- The owner after an event is the one before, or the holder that claims a free key. -/
theorem owner_step_cases {l : Ledger} {e : Event} {key holder : String}
    (h : (l.step e).owner key = some holder) :
    (l.claims.step e).cache.get? key = some .awaited ∧
      ((l.claims.cache.get? key = none ∧ e.claimant? = some holder) ∨
        (l.claims.cache.get? key ≠ none ∧ l.owner key = some holder)) := by
  rw [owner_step] at h
  split at h
  · next ha =>
      refine ⟨Cache.isAwaited_iff.1 ha, ?_⟩
      split at h
      · next hf => exact .inl ⟨Cache.isFree_iff.1 hf, h⟩
      · next hf => exact .inr ⟨fun hn => hf (Cache.isFree_iff.2 hn), h⟩
  · cases h

/-- **One event.**  Every event keeps the ledger sound, invalidations included. -/
theorem sound_step {l : Ledger} (h : Sound l) (e : Event) : Sound (l.step e) where
  owned {key} ha := by
    have haw : (l.claims.step e).cache.isAwaited key = true := Cache.isAwaited_iff.2 ha
    by_cases hb : l.claims.cache.get? key = some .awaited
    · obtain ⟨holder, ho⟩ := h.owned hb
      refine ⟨holder, ?_⟩
      have hf : ¬ l.claims.cache.isFree key = true := by rw [Cache.isFree_iff, hb]; exact nofun
      rw [owner_step, if_pos haw, if_neg hf, ho]
    · obtain ⟨holder, he, hn, -⟩ := claimed_of_awaited ha hb
      refine ⟨holder, ?_⟩
      rw [owner_step, if_pos haw, if_pos (Cache.isFree_iff.2 hn), he]
  awaited ho := (owner_step_cases ho).1
  held {key holder} ho := by
    obtain ⟨ha, ⟨hn, he⟩ | ⟨-, ho⟩⟩ := owner_step_cases ho
    · obtain ⟨claimant, hc, -, hh⟩ := claimed_of_awaited ha (by rw [hn]; exact nofun)
      obtain rfl : claimant = holder := Option.some.inj (hc.symm.trans he)
      exact hh
    · exact held_step (h.held ho) (h.awaited ho) ha
  present _ hl := (lost_step_eq_false_iff.1 hl).1
  kept {key holder other} hh hl ho := by
    obtain ⟨-, ho⟩ := owner_step_cases ho
    by_cases he : e.claimant? = some holder
    · -- the holder claims now, so the key was free and is its own
      have hn := free_of_held_step he hh
      rcases ho with ⟨-, hc⟩ | ⟨hk, -⟩
      · exact Option.some.inj (hc.symm.trans he)
      · exact absurd hn hk
    · have hb := held_of_held_step he hh
      have hlost := (lost_step_eq_false_iff.1 hl).2.resolve_right he
      rcases ho with ⟨hn, -⟩ | ⟨-, ho⟩
      · exact absurd hn (h.present hb hlost)
      · exact h.kept hb hlost ho

theorem sound_run (events : List Event) : Sound (run events) := by
  suffices h : ∀ l, Sound l → Sound (events.foldl step l) from h empty sound_empty
  intro l hl
  induction events generalizing l with
  | nil => exact hl
  | cons e events ih => exact ih _ (sound_step hl e)

end Ledger

/-! ### Letting go of what another holder awaits -/

/-- **Letting go of a key of another holder.**  After any sequence of events, every awaited key has
an owner that holds it, and any other holder that lets go takes the entry away exactly if it claimed
the same key and nothing was known under it at some time since; else the entry stays. -/
theorem drop_other_iff (events : List Event) {key : String}
    (ha : (Ledger.run events).claims.cache.get? key = some .awaited) :
    ∃ owner, (Ledger.run events).owner key = some owner ∧
      key ∈ Request.keys ((Ledger.run events).claims.held owner) ∧
      ∀ holder, holder ≠ owner →
        (((Ledger.run events).claims.drop holder).cache.get? key = none ↔
          key ∈ Request.keys ((Ledger.run events).claims.held holder) ∧
            (Ledger.run events).lost holder key = true) ∧
        (((Ledger.run events).claims.drop holder).cache.get? key = some .awaited ↔
          ¬ (key ∈ Request.keys ((Ledger.run events).claims.held holder) ∧
            (Ledger.run events).lost holder key = true)) := by
  have h := Ledger.sound_run events
  obtain ⟨owner, ho⟩ := h.owned ha
  refine ⟨owner, ho, h.held ho, fun holder hne => ?_⟩
  have hl : key ∈ Request.keys ((Ledger.run events).claims.held holder) →
      (Ledger.run events).lost holder key = true := fun hh =>
    Bool.of_not_eq_false fun hf => hne (h.kept hh hf ho).symm
  rw [get?_drop, Cache.isAwaited_iff.2 ha]
  by_cases hh : key ∈ Request.keys ((Ledger.run events).claims.held holder)
  · simp [hh, hl hh]
  · simp [hh, ha]

/-- A request claimed, forgotten and claimed by another holder. -/
theorem drop_other_iff_reclaimed :
    let events : List Event :=
      [.claim "old" [.one "a"], .forget (Request.one "a").key, .claim "new" [.one "a"]]
    (Ledger.run events).claims.cache.get? (Request.one "a").key = some .awaited ∧
      ∃ owner, (Ledger.run events).owner (Request.one "a").key = some owner ∧
        ∀ holder, holder ≠ owner →
          (((Ledger.run events).claims.drop holder).cache.get? (Request.one "a").key = none ↔
            (Request.one "a").key ∈ Request.keys ((Ledger.run events).claims.held holder) ∧
              (Ledger.run events).lost holder (Request.one "a").key = true) :=
  have ha := Cache.isAwaited_iff.1 (by decide +kernel)
  ⟨ha, (drop_other_iff _ ha).imp fun _ h => ⟨h.1, fun holder hne => (h.2.2 holder hne).1⟩⟩

/-- Letting go does not keep what another holder awaits: a request is claimed, forgotten and
claimed by another holder before the first one lets go. -/
theorem not_drop_keeps_other :
    ¬ ∀ (events : List Event) (holder owner key : String),
      (Ledger.run events).owner key = some owner → owner ≠ holder →
        ((Ledger.run events).claims.drop holder).cache.get? key = some .awaited := fun h => by
  have kept := h
    [.claim "old" [.one "a"], .forget (Request.one "a").key, .claim "new" [.one "a"]]
    "old" "new" (Request.one "a").key (by decide +kernel) (by decide)
  exact absurd (Cache.isAwaited_iff.2 kept) (by decide +kernel)

end ViewTree.Claims
