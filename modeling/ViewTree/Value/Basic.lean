import ViewTree.Fields
import ViewTree.Number.Layout

/-!
# Value — dynamic values

What expressions compute with and what node definitions are made of.  `undefined` is the value of
a path that leads nowhere, and differs from `null`.
-/

namespace ViewTree

/-- A dynamic value. -/
inductive Value where
  | undefined
  | null
  | bool (b : Bool)
  | number (x : Float)
  | text (s : String)
  | list (items : List Value)
  /-- Named values, in the order of their names. -/
  | record (fields : List (String × Value))

namespace Value

instance : Inhabited Value := ⟨undefined⟩

/-- The name of a value's type. -/
def typeWord : Value → String
  | undefined => "undefined"
  | null => "null"
  | bool _ => "bool"
  | number _ => "number"
  | text _ => "string"
  | list _ => "list"
  | record _ => "record"

/-- Whether a condition holds: not for `undefined`, `null`, false, zero, what is not a number and
the empty text. -/
def holds : Value → Bool
  | undefined => false
  | null => false
  | bool b => b
  | number x => x != 0 && !x.isNaN
  | text s => !s.isEmpty
  | list _ => true
  | record _ => true

/-- Whether a value is `undefined` or `null`. -/
def isAbsent : Value → Bool
  | undefined => true
  | null => true
  | _ => false

/-- The text in a value. -/
def text? : Value → Option String
  | text s => some s
  | _ => none

/-- The number in a value. -/
def number? : Value → Option Float
  | number x => some x
  | _ => none

/-- The items of a list. -/
def items? : Value → Option (List Value)
  | list items => some items
  | _ => none

/-- The fields of a record. -/
def fields? : Value → Option (Fields Value)
  | record fields => some fields
  | _ => none

/-- The field of a record; no other value has fields. -/
def get? (v : Value) (name : String) : Option Value :=
  v.fields?.bind fun fields => Fields.get? fields name

/-- The record of some fields. -/
def ofFields (fields : List (String × Value)) : Value :=
  record (Fields.ofList fields)

mutual

/-- Equality as expressions see it: numbers are equal as numbers, so a zero equals a negative zero
and what is not a number differs from itself. -/
def equal : Value → Value → Bool
  | undefined, undefined => true
  | null, null => true
  | bool a, bool b => a == b
  | number x, number y => x == y
  | text s, text t => s == t
  | list xs, list ys => equalItems xs ys
  | record xs, record ys => equalFields xs ys
  | _, _ => false

/-- `equal` for the items of a list. -/
def equalItems : List Value → List Value → Bool
  | [], [] => true
  | x :: xs, y :: ys => equal x y && equalItems xs ys
  | _, _ => false

/-- `equal` for the fields of a record. -/
def equalFields : List (String × Value) → List (String × Value) → Bool
  | [], [] => true
  | (k, x) :: xs, (l, y) :: ys => k == l && equal x y && equalFields xs ys
  | _, _ => false

end

instance : BEq Value := ⟨equal⟩

end Value

end ViewTree
