import ViewTree.Data.Record

/-!
# Data — queries

A query selects records by their tags and their schema and bounds how many are taken.  Criteria
that are not given match every record.
-/

namespace ViewTree

/-- A selection of records. -/
structure Query where
  /-- A tag that a record has to have. -/
  tag : Option String
  /-- The schema that a record has to have. -/
  schemaName : Option String
  /-- Tags of which a record has to have one, unless there are none. -/
  anyTags : List String
  /-- Tags that a record has to have. -/
  allTags : List String
  /-- How many records are taken at most. -/
  limit : UInt64
deriving DecidableEq, Repr

namespace Query

/-- How many records are taken unless a query says otherwise. -/
def defaultLimit : UInt64 := 10

/-- The names of the fields, in order. -/
def fieldNames : List String :=
  ["tag", "schema_name", "any_tags", "all_tags", "limit"]

/-- Whether a query selects a record. -/
def selects (q : Query) (r : Record) : Bool :=
  q.tag.all r.tags.contains
    && q.schemaName.all (fun s => r.schemaName == some s)
    && (q.anyTags.isEmpty || q.anyTags.any r.tags.contains)
    && q.allTags.all r.tags.contains

/-- A list of tags as a field, left out if there are none. -/
def tagsField (name : String) (tags : List String) : List (String × Json) :=
  if tags.isEmpty then [] else [(name, .array (tags.map .text))]

/-- The query as a document. -/
def toJson (q : Query) : Json :=
  .object (
    (q.tag.map fun s => ("tag", Json.text s)).toList
      ++ (q.schemaName.map fun s => ("schema_name", Json.text s)).toList
      ++ tagsField "any_tags" q.anyTags
      ++ tagsField "all_tags" q.allTags
      ++ [("limit", .int q.limit.toNat)])

/-- The query as a document gives it.  The fields are read in the order of their names, so that the
first of several mismatches is the one in that order. -/
def ofJson (j : Json) : Except Json.Mismatch Query := do
  let entries ← j.asEntries fieldNames
  let allTags ← Json.field "all_tags" [] Json.asTexts entries
  let anyTags ← Json.field "any_tags" [] Json.asTexts entries
  let limit ← Json.field "limit" [] Json.asWord entries
  let schemaName ← Json.field "schema_name" ["schema"] (Json.asOptional Json.asText) entries
  let tag ← Json.field "tag" [] (Json.asOptional Json.asText) entries
  return {
    tag := tag.join
    schemaName := schemaName.join
    anyTags := anyTags.getD []
    allTags := allTags.getD []
    limit := limit.getD defaultLimit }

end Query

end ViewTree
