import ViewTree.Data.Cache

/-!
# Data — claims and their holders

A cache that several holders claim requests from.  A holder has the requests it claimed until it
lets go of them, which releases those that were not answered meanwhile.  The cache itself does not
record who claimed what.
-/

namespace ViewTree

/-- A cache and what each holder claimed from it. -/
structure Claims where
  cache : Cache
  /-- The requests that each holder claimed. -/
  holders : Fields (List Request)

namespace Claims

/-- A cache that nobody claimed from. -/
def ofCache (cache : Cache) : Claims := ⟨cache, []⟩

/-- What a holder has. -/
def held (c : Claims) (holder : String) : List Request :=
  (Fields.get? c.holders holder).getD []

/-- Lets a holder go. -/
def drop (c : Claims) (holder : String) : Claims :=
  ⟨c.cache.releaseAll (c.held holder), Fields.erase holder c.holders⟩

/-- Claims requests for a holder.  What the holder had before it lets go of afterwards. -/
def claimAll (c : Claims) (holder : String) (requests : List Request) : Claims :=
  let (claimed, cache) := c.cache.claimAll requests
  let dropped := drop ⟨cache, c.holders⟩ holder
  ⟨dropped.cache, Fields.insert holder claimed dropped.holders⟩

/-- The claims over a changed cache. -/
def updateCache (c : Claims) (f : Cache → Cache) : Claims :=
  ⟨f c.cache, c.holders⟩

end Claims

end ViewTree
