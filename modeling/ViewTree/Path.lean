import ViewTree.Number.Reading
import ViewTree.Scope
import ViewTree.Text.Alphanumeric
import ViewTree.Text.Cut

/-!
# Path — ways into a scope

A path is a name followed by steps: a key after a point, an index in brackets.  Each part between
points is a run of key characters with any number of indices behind it.  An index is a numeral
below 2^64, maybe with a plus sign and with blanks around it.

A step goes into a record by the name of a field and into a list by a position; where a list or a
text has no such element, its `length` can still be read.  A path that leads nowhere, and a text
that is no path, give `undefined`.
-/

namespace ViewTree

open Text

/-- One step of a path. -/
inductive Step where
  | key (name : String)
  | index (position : Nat)
deriving DecidableEq, Repr

namespace Path

/-- The characters of a key. -/
def isKeyChar (c : Char) : Bool :=
  isAlphanumeric c || c == '_' || c == '$' || c == '-'

/-- The indices that fill a text. -/
def indices? (s : List Char) : Option (List Nat) :=
  match s with
  | [] => some []
  | '[' :: r =>
    match h : cut [']'] r with
    | some (inside, after) =>
      have shorter : after.length < r.length + 1 := by
        have := length_of_cut h
        simp only [List.length_cons, List.length_nil] at this
        omega
      do
        let i ← word? (trim inside)
        let is ← indices? after
        return i :: is
    | none => none
  | _ => none
termination_by s.length

/-- A key and its indices. -/
def part? (s : List Char) : Option (List Step) :=
  let key := s.takeWhile (· != '[')
  if key.isEmpty || !key.all isKeyChar then none
  else (indices? (s.dropWhile (· != '['))).map fun is =>
    .key (String.ofList key) :: is.map .index

/-- The steps of a path. -/
def parse? (s : List Char) : Option (List Step) :=
  ((splitOn '.' (trim s)).mapM part?).map List.flatten

end Path

namespace Value

/-- The element that a step leads to. -/
def stored? : Value → Step → Option Value
  | record fields, .key name => Fields.get? fields name
  | record fields, .index i => Fields.get? fields (String.ofList (digits i))
  | list items, .index i => items[i]?
  | list items, .key name => (word? name.toList).bind fun i => items[i]?
  | _, _ => none

/-- The step to the number of elements of a list, or of characters of a text. -/
def lengthStep : Step := .key "length"

/-- What is computed from a value instead of being stored in it. -/
def computed? (v : Value) (step : Step) : Option Value :=
  if step = lengthStep then
    match v with
    | list items => some (number (Number.ofNat items.length))
    | text s => some (number (Number.ofNat s.length))
    | _ => none
  else none

/-- One step into a value. -/
def step? (v : Value) (step : Step) : Option Value :=
  v.stored? step <|> v.computed? step

/-- Several steps into a value. -/
def follow? (v : Value) (steps : List Step) : Option Value :=
  steps.foldlM step? v

end Value

namespace Scope

/-- The value at the end of some steps, the first of which is to a name. -/
def follow (scope : Scope) : List Step → Value
  | .key name :: steps => ((scope.get? name).bind (·.follow? steps)).getD .undefined
  | _ => .undefined

/-- The value at the end of a path. -/
def lookup (scope : Scope) (path : List Char) : Value :=
  match Path.parse? path with
  | some steps => scope.follow steps
  | none => .undefined

end Scope

end ViewTree
