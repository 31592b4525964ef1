import ViewTree.Data.Cache

/-!
# Cache — what claiming and settling leave under each key

The operations on several requests, seen through the entry of one key.

* `mem_claimAll_iff`, `nodup_claimAll`, `get?_claimAll`: claiming takes the keys under which
  nothing is known, each once, marks them as awaited and leaves every other entry alone.
* `get?_releaseAll`: giving claims back takes away the entries among them that are still awaited.
* `get?_insertAll`: of several entries for one key the last one stays; a key with none is left
  alone.
* `Settled`: a key is settled when its request was answered or has failed.
* `Keeps`: a later cache leaves what is settled as it is.
-/

namespace ViewTree

namespace Request

/-- The keys of some requests. -/
def keys (requests : List Request) : List String :=
  requests.map Request.key

@[simp] theorem keys_nil : keys [] = [] := rfl

@[simp] theorem keys_cons (r : Request) (rs : List Request) :
    keys (r :: rs) = r.key :: keys rs := rfl

end Request

namespace Cache

/-- Something other than waiting is known under a key. -/
def Settled (cache : Cache) (key : String) : Prop :=
  ∃ entry, cache.get? key = some entry ∧ entry ≠ .awaited

theorem isFree_iff {cache : Cache} {key : String} :
    cache.isFree key = true ↔ cache.get? key = none :=
  Option.isNone_iff_eq_none

theorem isAwaited_iff {cache : Cache} {key : String} :
    cache.isAwaited key = true ↔ cache.get? key = some .awaited := by
  unfold isAwaited
  cases cache.get? key with
  | none => simp
  | some entry => cases entry <;> simp [Entry.isAwaited]

theorem get?_insert (cache : Cache) (key other : String) (entry : Entry) :
    (cache.insert key entry).get? other = if key = other then some entry else cache.get? other :=
  Fields.get?_insert key other entry cache

theorem get?_forget (cache : Cache) (key other : String) :
    (cache.forget key).get? other = if key = other then none else cache.get? other :=
  Fields.get?_erase key other cache

theorem get?_empty (key : String) : empty.get? key = none := rfl

/-- A key is free, awaited or settled. -/
theorem get?_cases (cache : Cache) (key : String) :
    cache.get? key = none ∨ cache.get? key = some .awaited ∨ cache.Settled key := by
  cases h : cache.get? key with
  | none => exact .inl rfl
  | some entry =>
      cases entry with
      | awaited => exact .inr (.inl rfl)
      | ready v => exact .inr (.inr ⟨_, h, nofun⟩)
      | failed m => exact .inr (.inr ⟨_, h, nofun⟩)

theorem Settled.ne_awaited {cache : Cache} {key : String} (h : cache.Settled key) :
    cache.get? key ≠ some .awaited := by
  obtain ⟨entry, he, hs⟩ := h
  rw [he]
  exact fun h => hs (Option.some.inj h)

theorem Settled.ne_none {cache : Cache} {key : String} (h : cache.Settled key) :
    cache.get? key ≠ none := by
  obtain ⟨entry, he, -⟩ := h
  rw [he]
  exact nofun

theorem Settled.congr {cache other : Cache} {key : String} (h : cache.Settled key)
    (he : other.get? key = cache.get? key) : other.Settled key := by
  obtain ⟨entry, hg, hs⟩ := h
  exact ⟨entry, he.trans hg, hs⟩

theorem not_settled_iff (cache : Cache) {key : String} :
    ¬ cache.Settled key ↔ cache.get? key = none ∨ cache.get? key = some .awaited := by
  constructor
  · intro h
    rcases cache.get?_cases key with hn | ha | hs
    · exact .inl hn
    · exact .inr ha
    · exact absurd hs h
  · rintro (hn | ha) hs
    · exact hs.ne_none hn
    · exact hs.ne_awaited ha

/-- A later cache has the same entry under each key that is settled. -/
def Keeps (cache after : Cache) : Prop :=
  ∀ key, cache.Settled key → after.get? key = cache.get? key

/-! ### Claiming -/

theorem claimAll_cons (cache : Cache) (r : Request) (rs : List Request) :
    cache.claimAll (r :: rs) =
      (if cache.isFree r.key then r :: ((cache.claim r.key).claimAll rs).1
        else ((cache.claim r.key).claimAll rs).1,
        ((cache.claim r.key).claimAll rs).2) := by
  rw [claimAll]
  by_cases hf : cache.isFree r.key = true
  · simp only [hf, if_true]
  · simp only [hf, if_false, Bool.false_eq_true]

/-- The requests claimed are those under whose key nothing was known. -/
theorem mem_claimAll_iff {cache : Cache} {requests : List Request} {key : String} :
    key ∈ Request.keys (cache.claimAll requests).1 ↔
      key ∈ Request.keys requests ∧ cache.get? key = none := by
  induction requests generalizing cache with
  | nil => simp [claimAll]
  | cons r rs ih =>
      rw [claimAll_cons]
      by_cases hf : cache.isFree r.key = true
      · have hr := isFree_iff.1 hf
        simp only [hf, if_true, Request.keys_cons, List.mem_cons, ih, get?_claim, and_true]
        by_cases e : r.key = key
        · subst e; simp [hr]
        · simp [e, Ne.symm e]
      · have hr : cache.get? r.key ≠ none := fun h => hf (isFree_iff.2 h)
        simp only [hf, if_false, Request.keys_cons, List.mem_cons, ih, get?_claim, and_false,
          Bool.false_eq_true]
        constructor
        · exact fun ⟨hm, hn⟩ => ⟨.inr hm, hn⟩
        · rintro ⟨rfl | hm, hn⟩
          · exact absurd hn hr
          · exact ⟨hm, hn⟩

/-- No key is claimed twice. -/
theorem nodup_claimAll (cache : Cache) (requests : List Request) :
    (Request.keys (cache.claimAll requests).1).Nodup := by
  induction requests generalizing cache with
  | nil => simp [claimAll]
  | cons r rs ih =>
      rw [claimAll_cons]
      by_cases hf : cache.isFree r.key = true
      · have hn : r.key ∉ Request.keys ((cache.claim r.key).claimAll rs).1 := fun h => by
          have hr := (mem_claimAll_iff.1 h).2
          rw [get?_claim, if_pos ⟨rfl, hf⟩] at hr
          cases hr
        simp only [hf, if_true]
        exact List.nodup_cons.2 ⟨hn, ih _⟩
      · simp only [hf, if_false, Bool.false_eq_true]
        exact ih _

theorem get?_claimAll (cache : Cache) (requests : List Request) (key : String) :
    (cache.claimAll requests).2.get? key =
      if key ∈ Request.keys requests ∧ cache.isFree key then some .awaited
      else cache.get? key := by
  induction requests generalizing cache with
  | nil => simp [claimAll]
  | cons r rs ih =>
      rw [claimAll_cons, ih]
      simp only [get?_claim, Request.keys_cons, List.mem_cons, isFree_iff]
      by_cases e : r.key = key
      · subst e
        cases h : cache.get? r.key <;> simp
      · simp [e, Ne.symm e]

/-- A claim that takes nothing changes nothing. -/
theorem claimAll_eq_self {cache : Cache} {requests : List Request}
    (h : (cache.claimAll requests).1 = []) : (cache.claimAll requests).2 = cache := by
  induction requests with
  | nil => rfl
  | cons r rs ih =>
      rw [claimAll_cons] at h ⊢
      by_cases hf : cache.isFree r.key = true
      · rw [if_pos hf] at h
        cases h
      · have hc : cache.claim r.key = cache := if_neg hf
        rw [if_neg hf, hc] at h
        rw [hc]
        exact ih h

/-! ### Giving claims back -/

theorem isAwaited_release (cache : Cache) (key other : String) :
    (cache.release key).isAwaited other = if key = other then false else cache.isAwaited other := by
  rw [isAwaited, get?_release]
  by_cases e : key = other
  · subst e
    rw [if_pos rfl]
    by_cases ha : cache.isAwaited key = true
    · rw [if_pos ⟨rfl, ha⟩]; rfl
    · rw [if_neg fun h => ha h.2]; exact Bool.eq_false_iff.2 ha
  · rw [if_neg fun h => e h.1, if_neg e]; rfl

theorem get?_releaseAll (cache : Cache) (requests : List Request) (key : String) :
    (cache.releaseAll requests).get? key =
      if key ∈ Request.keys requests ∧ cache.isAwaited key then none else cache.get? key := by
  induction requests generalizing cache with
  | nil => simp [releaseAll]
  | cons r rs ih =>
      have step : cache.releaseAll (r :: rs) = (cache.release r.key).releaseAll rs := rfl
      rw [step, ih]
      simp only [get?_release, isAwaited_release, Request.keys_cons, List.mem_cons]
      by_cases e : r.key = key
      · subst e; simp
      · simp [e, Ne.symm e]

/-! ### Putting entries -/

theorem insertAll_eq (cache : Cache) (entries : List (Request × Entry)) :
    cache.insertAll entries = Fields.insertAll (entries.map fun e => (e.1.key, e.2)) cache := by
  rw [Fields.insertAll, List.foldl_map]
  rfl

theorem get?_insertAll (cache : Cache) (entries : List (Request × Entry)) (key : String) :
    (cache.insertAll entries).get? key =
      (Fields.get? (entries.map fun e => (e.1.key, e.2)).reverse key).or (cache.get? key) := by
  rw [insertAll_eq]
  exact Fields.get?_insertAll _ _ _

/-- A key that none of the entries is for is left alone. -/
theorem get?_insertAll_of_notMem {cache : Cache} {entries : List (Request × Entry)} {key : String}
    (h : key ∉ Request.keys (entries.map Prod.fst)) :
    (cache.insertAll entries).get? key = cache.get? key := by
  rw [get?_insertAll, Fields.get?_eq_none_iff.2, Option.none_or]
  rintro f hf rfl
  obtain ⟨e, he, rfl⟩ := List.mem_map.1 (List.mem_reverse.1 hf)
  exact h (List.mem_map_of_mem (List.mem_map_of_mem he))

/-- A key that some of the entries are for has one of them. -/
theorem get?_insertAll_of_mem (cache : Cache) {entries : List (Request × Entry)} {key : String}
    (h : key ∈ Request.keys (entries.map Prod.fst)) :
    ∃ e ∈ entries, (cache.insertAll entries).get? key = some e.2 := by
  rw [get?_insertAll]
  cases hg : Fields.get? (entries.map fun e => (e.1.key, e.2)).reverse key with
  | none =>
      obtain ⟨r, hr, rfl⟩ := List.mem_map.1 h
      obtain ⟨e, he, rfl⟩ := List.mem_map.1 hr
      exact absurd rfl (Fields.get?_eq_none_iff.1 hg _
        (List.mem_reverse.2 (List.mem_map_of_mem he)))
  | some entry =>
      have hm := List.mem_reverse.1 (Fields.mem_of_get?_eq_some hg)
      obtain ⟨e, he, heq⟩ := List.mem_map.1 hm
      cases heq
      exact ⟨e, he, rfl⟩

end Cache

end ViewTree
