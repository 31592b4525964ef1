import ViewTree.Data.Request

/-!
# Data — the cache

What is known of each request, by its key.  A request is claimed before it is asked for, which
marks it as awaited unless something is known of it already; releasing a claim forgets the request
only if it is still awaited.

* `get?_claim`, `get?_release`: what a claim and its release do to the entry of a key.
* `release_claim`: a claim that is released leaves no trace.
-/

namespace ViewTree

/-- What is known of a request. -/
inductive Entry where
  /-- It is being asked for. -/
  | awaited
  | ready (value : Value)
  | failed (message : String)

/-- Whether an entry waits for an answer. -/
def Entry.isAwaited : Entry → Bool
  | .awaited => true
  | _ => false

/-- What is known of each request. -/
abbrev Cache := Fields Entry

namespace Cache

/-- The cache that knows nothing. -/
def empty : Cache := []

/-- What is known under a key. -/
def get? (cache : Cache) (key : String) : Option Entry :=
  Fields.get? cache key

/-- The cache with an entry put under a key. -/
def insert (cache : Cache) (key : String) (entry : Entry) : Cache :=
  Fields.insert key entry cache

/-- The cache with nothing under a key. -/
def forget (cache : Cache) (key : String) : Cache :=
  Fields.erase key cache

/-- Whether nothing is known under a key, so that it can be claimed. -/
def isFree (cache : Cache) (key : String) : Bool :=
  (cache.get? key).isNone

/-- Whether a key is awaited. -/
def isAwaited (cache : Cache) (key : String) : Bool :=
  (cache.get? key).any Entry.isAwaited

/-- The cache after a claim. -/
def claim (cache : Cache) (key : String) : Cache :=
  if cache.isFree key then cache.insert key .awaited else cache

/-- The cache after a claim is given back. -/
def release (cache : Cache) (key : String) : Cache :=
  if cache.isAwaited key then cache.forget key else cache

/-- Claims requests one after the other.  Gives those that were free, each once, and the cache with
them awaited. -/
def claimAll (cache : Cache) : List Request → List Request × Cache
  | [] => ([], cache)
  | r :: rs =>
    let (claimed, after) := claimAll (cache.claim r.key) rs
    if cache.isFree r.key then (r :: claimed, after) else (claimed, after)

/-- The cache after the claims of some requests are given back. -/
def releaseAll (cache : Cache) (requests : List Request) : Cache :=
  requests.foldl (fun cache r => cache.release r.key) cache

/-- The cache with an entry put under the key of each request. -/
def insertAll (cache : Cache) (entries : List (Request × Entry)) : Cache :=
  entries.foldl (fun cache e => cache.insert e.1.key e.2) cache

/-! ### What a claim does to the entry of a key -/

theorem get?_claim (cache : Cache) (key other : String) :
    (cache.claim key).get? other =
      if key = other ∧ cache.isFree key then some .awaited else cache.get? other := by
  unfold claim
  by_cases hf : cache.isFree key
  · rw [if_pos hf]
    simp only [insert, get?, Fields.get?_insert, hf, and_true]
  · rw [if_neg hf, if_neg (fun h => hf h.2)]

theorem get?_release (cache : Cache) (key other : String) :
    (cache.release key).get? other =
      if key = other ∧ cache.isAwaited key then none else cache.get? other := by
  unfold release
  by_cases ha : cache.isAwaited key
  · rw [if_pos ha]
    simp only [forget, get?, Fields.get?_erase, ha, and_true]
  · rw [if_neg ha, if_neg (fun h => ha h.2)]

/-- A claim of a free key that is released leaves no trace. -/
theorem release_claim {cache : Cache} {key : String} (h : cache.isFree key = true) :
    (cache.claim key).release key = cache := by
  have hn : Fields.get? cache key = none := Option.isNone_iff_eq_none.1 h
  have ha : (cache.claim key).isAwaited key = true := by
    rw [isAwaited, get?_claim, if_pos ⟨rfl, h⟩]
    rfl
  rw [release, if_pos ha, claim, if_pos h]
  exact Fields.erase_insert hn .awaited

end Cache

end ViewTree
