import ViewTree.Data.Query

/-!
# Data — a store in memory

Records in the order in which their ids came into the store.  A record that replaces another one
takes its place and the version after its own; versions wrap around at the end of their range.
-/

namespace ViewTree

/-- Records in the order in which their ids came. -/
structure Store where
  records : List Record

namespace Store

/-- The store without records. -/
def empty : Store := ⟨[]⟩

/-- Puts a record in the place of the first one with its id, or at the end. -/
def put (r : Record) : List Record → List Record
  | [] => [r]
  | old :: rs =>
    if old.id = r.id then { r with version := old.version + 1 } :: rs else old :: put r rs

/-- The store with a record added or replaced. -/
def save (s : Store) (r : Record) : Store :=
  ⟨put r s.records⟩

/-- The store without the records of an id. -/
def delete (s : Store) (id : String) : Store :=
  ⟨s.records.filter fun r => r.id ≠ id⟩

/-- Whether there is a record with an id. -/
def has (s : Store) (id : String) : Bool :=
  s.records.any fun r => r.id = id

/-- The number of records. -/
def size (s : Store) : Nat :=
  s.records.length

/-- The record with an id. -/
def find? (s : Store) (id : String) : Option Record :=
  s.records.find? fun r => r.id = id

/-- The first records that a query selects. -/
def select (s : Store) (q : Query) : List Record :=
  (s.records.filter q.selects).take q.limit.toNat

end Store

end ViewTree
