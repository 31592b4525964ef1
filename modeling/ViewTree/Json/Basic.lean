import ViewTree.Fields

/-!
# Json — documents

A JSON document.  Numbers are kept in the two forms that JSON tells apart here: an integer that
was written without a point or exponent, and any other finite number.  An object holds its entries
in the order they were written, so a repeated name can still be seen; `sorted` puts every object
of a document in the order of its names, the last of several entries with one name staying.
-/

namespace ViewTree

/-- A JSON document. -/
inductive Json where
  | null
  | bool (b : Bool)
  /-- A number without a fraction. -/
  | int (n : Int)
  /-- A number with a fraction, or too large to be kept as an integer. -/
  | real (x : Float)
  | text (s : String)
  | array (items : List Json)
  /-- Named documents, as they were written. -/
  | object (entries : List (String × Json))
deriving Inhabited

namespace Json

mutual

/-- The document with every object in the order of its names. -/
def sorted : Json → Json
  | array items => array (sortedItems items)
  | object entries => object (Fields.ofList (sortedEntries entries))
  | j => j

/-- `sorted` for the items of an array. -/
def sortedItems : List Json → List Json
  | [] => []
  | j :: js => sorted j :: sortedItems js

/-- `sorted` for the documents in an object. -/
def sortedEntries : List (String × Json) → List (String × Json)
  | [] => []
  | (name, j) :: es => (name, sorted j) :: sortedEntries es

end

end Json

end ViewTree
