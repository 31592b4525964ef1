import ViewTree.Json.Writer
import ViewTree.Number.Reading
import ViewTree.Value.Basic

/-!
# Value — values as documents

`toJson` gives the document of a value, `write` its compact text directly, and `ofJson` reads a
document back.  An integral number below 9·10^15 becomes an integer, so that a negative zero loses
its sign; a number that is not finite and `undefined` become null.
-/

namespace ViewTree.Value

open ViewTree.Number ViewTree.Text

/-- Integral numbers below this bound are written as integers. -/
def integerBound : Nat := 9000000000000000

/-- The document of a number. -/
def jsonNumber (x : Float) : Json :=
  match integerBelow? integerBound x with
  | some n => .int n
  | none => if x.isFinite then .real x else .null

mutual

/-- The document of a value. -/
def toJson : Value → Json
  | undefined => .null
  | null => .null
  | bool b => .bool b
  | number x => jsonNumber x
  | text s => .text s
  | list items => .array (itemsToJson items)
  | record fields => .object (fieldsToJson fields)

/-- The documents of the items of a list. -/
def itemsToJson : List Value → List Json
  | [] => []
  | v :: vs => toJson v :: itemsToJson vs

/-- The documents of the fields of a record. -/
def fieldsToJson : List (String × Value) → List (String × Json)
  | [] => []
  | (name, v) :: fs => (name, toJson v) :: fieldsToJson fs

end

theorem fieldsToJson_eq (fields : List (String × Value)) :
    fieldsToJson fields = fields.map fun f => (f.1, toJson f.2) := by
  induction fields with
  | nil => rfl
  | cons f fs ih => rw [fieldsToJson, List.map_cons, ih]

/-- The compact text of a number. -/
def writeNumber (x : Float) : List Char :=
  match integerBelow? integerBound x with
  | some n => signedDigits n
  | none => Json.writeReal x

mutual

/-- The compact text of a value. -/
def write : Value → List Char
  | undefined => Json.writeNull
  | null => Json.writeNull
  | bool b => Json.writeBool b
  | number x => writeNumber x
  | text s => Json.writeText s
  | list items => '[' :: (Json.commaSeparated (writeItems items) ++ [']'])
  | record fields => '\x7b' :: (Json.commaSeparated (writeFields fields) ++ ['\x7d'])

/-- The texts of the items of a list. -/
def writeItems : List Value → List (List Char)
  | [] => []
  | v :: vs => write v :: writeItems vs

/-- The texts of the fields of a record. -/
def writeFields : List (String × Value) → List (List Char)
  | [] => []
  | (name, v) :: fs => (Json.writeText name ++ ':' :: write v) :: writeFields fs

end

mutual

/-- The value of a document. -/
def ofJson : Json → Value
  | .null => null
  | .bool b => bool b
  | .int n => number (ofInt n)
  | .real x => number x
  | .text s => text s
  | .array items => list (itemsOfJson items)
  | .object entries => record (Fields.ofList (entriesOfJson entries))

/-- The values of the items of an array. -/
def itemsOfJson : List Json → List Value
  | [] => []
  | j :: js => ofJson j :: itemsOfJson js

/-- The values of the entries of an object. -/
def entriesOfJson : List (String × Json) → List (String × Value)
  | [] => []
  | (name, j) :: es => (name, ofJson j) :: entriesOfJson es

end

/-- The text that stands for a value inside a text: nothing for `undefined` and `null`, compact
JSON for lists and records. -/
def display : Value → String
  | undefined => ""
  | null => ""
  | bool b => String.ofList (Json.writeBool b)
  | number x => Number.display x
  | text s => s
  | list items => (list items).toJson.render
  | record fields => (record fields).toJson.render

end ViewTree.Value
