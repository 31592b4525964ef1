import ViewTree.Json.Shape
import ViewTree.Value.Json

/-!
# Data — records

A record has an id, tags, a payload and a version.  It is written with its fields in the order of
the structure, and read back from an object with any of them left out but the id, or from the
array of its fields.
-/

namespace ViewTree

/-- A record. -/
structure Record where
  /-- The name it is fetched by. -/
  id : String
  title : String
  /-- The names it is found by. -/
  tags : List String
  /-- The name of the shape of its payload. -/
  schemaName : Option String
  payload : Value
  version : Int64

namespace Record

/-- A record in its first version, without tags, schema and payload. -/
def create (id title : String) : Record :=
  ⟨id, title, [], none, .null, 1⟩

/-- The names of the fields, in order. -/
def fieldNames : List String :=
  ["id", "title", "tags", "schema_name", "context", "version"]

/-- The record as a document. -/
def toJson (r : Record) : Json :=
  .object (
    [("id", .text r.id), ("title", .text r.title), ("tags", .array (r.tags.map .text))]
      ++ (r.schemaName.map fun s => ("schema_name", .text s)).toList
      ++ [("context", r.payload.toJson), ("version", .int r.version.toInt)])

/-- The record as a document gives it. -/
def ofJson (j : Json) : Except Json.Mismatch Record := do
  let entries ← j.asEntries fieldNames
  let some id ← Json.field "id" [] Json.asText entries | throw (.missing "id")
  let title ← Json.field "title" [] Json.asText entries
  let tags ← Json.field "tags" [] Json.asTexts entries
  let schemaName ← Json.field "schema_name" [] (Json.asOptional Json.asText) entries
  let payload ← Json.field "context" [] (fun j => .ok (Value.ofJson j)) entries
  let version ← Json.field "version" [] Json.asSignedWord entries
  return {
    id := id
    title := title.getD ""
    tags := tags.getD []
    schemaName := schemaName.join
    payload := payload.getD .undefined
    version := version.getD 0 }

/-- The record as expressions see it. -/
def toValue (r : Record) : Value :=
  .ofFields [
    ("id", .text r.id),
    ("title", .text r.title),
    ("tags", .list (r.tags.map .text)),
    ("schema_name", (r.schemaName.map Value.text).getD .null),
    ("context", r.payload),
    ("version", .number (Number.ofInt r.version.toInt))]

end Record

end ViewTree
