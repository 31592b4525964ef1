import ViewTree.Value.Basic
import ViewTree.Text.Numeral

/-!
# Node — the shape of a node definition

A node definition is plain data: nothing, a leaf, a sequence of nodes, an iteration with its
source and the node for each element, or a component with its props.  `Node.ofValue` finds the
shape without filling in any template.
-/

namespace ViewTree

/-- Why a record is no node definition. -/
inductive Malformation where
  /-- There is a source and no node for its elements. -/
  | sourceAlone
  /-- There is a node for elements and no source. -/
  | itemAlone
  | empty
  | several (names : List String)
deriving DecidableEq, Repr

/-- The field with the source of an iteration. -/
def forEachName : String := "for_each"

/-- The field with the node for each element of an iteration. -/
def renderItemName : String := "render_item"

/-- The prop with the children of a component. -/
def childrenName : String := "children"

open Text in
/-- The words for a malformation. -/
def Malformation.describe : Malformation → String
  | .sourceAlone => "'" ++ forEachName ++ "' without '" ++ renderItemName ++ "'"
  | .itemAlone => "'" ++ renderItemName ++ "' without '" ++ forEachName ++ "'"
  | .empty => "empty node record"
  | .several names =>
    "node record must have exactly one component key, found "
      ++ String.ofList (digits names.length) ++ ": " ++ ", ".intercalate names

/-- The shape of a node definition. -/
inductive Node where
  | empty
  /-- A text, maybe with templates in it. -/
  | text (s : String)
  /-- A number or a truth value. -/
  | scalar (v : Value)
  | sequence (items : List Value)
  /-- One node for each element of a source. -/
  | iteration (source item : Value)
  | component (name : String) (props : Fields Value)
  | malformed (why : Malformation)

namespace Node

/-- The props of a component: a record as it is, none for nothing, and anything else as its
children. -/
def props : Value → Fields Value
  | .record fields => fields
  | .undefined => []
  | .null => []
  | v => [(childrenName, v)]

/-- The shape of a record. -/
def ofFields (fields : Fields Value) : Node :=
  match Fields.get? fields forEachName, Fields.get? fields renderItemName with
  | some source, some item => .iteration source item
  | some _, none => .malformed .sourceAlone
  | none, some _ => .malformed .itemAlone
  | none, none =>
    match fields with
    | [] => .malformed .empty
    | [(name, v)] => .component name (props v)
    | fields => .malformed (.several fields.keys)

/-- The shape of a node definition. -/
def ofValue : Value → Node
  | .undefined => .empty
  | .null => .empty
  | .text s => .text s
  | .bool b => .scalar (.bool b)
  | .number x => .scalar (.number x)
  | .list items => .sequence items
  | .record fields => ofFields fields

end Node

end ViewTree
