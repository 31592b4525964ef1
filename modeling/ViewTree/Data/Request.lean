import ViewTree.Data.Query

/-!
# Data — requests

What a data loader asks for: one record by its id, or the records that a query selects.  The key
of a request is its compact document, so that a host can read the request back from it.

A request is read from the filled props of a loader.  An id wins over a query; a query stands in a
prop of its own or has its fields among the props.  A field that is `undefined` or null counts as
left out.
-/

namespace ViewTree

/-- What a data loader asks for. -/
inductive Request where
  | one (id : String)
  | several (query : Query)
deriving DecidableEq, Repr

namespace Request

/-- The request as a document. -/
def toJson : Request → Json
  | one id => .object [("id", .text id)]
  | several query => .object [("query", query.toJson)]

/-- The key under which the answer is kept. -/
def key (r : Request) : String :=
  r.toJson.render

/-- Why props are no request. -/
inductive Fault where
  /-- The id is neither a number nor a text that is not empty. -/
  | badId (found : Value)
  | badQuery (found : Value)
  | mismatch (why : Json.Mismatch)

/-- The message of a fault. -/
def Fault.message : Fault → String
  | .badId found => "record id resolved to " ++ found.typeWord ++ " instead of a string"
  | .badQuery found => "query must be a record, got " ++ found.typeWord
  | .mismatch why => "invalid query: " ++ why.message

/-- The props that are fields of a query. -/
def queryProps : List String :=
  ["tag", "schema_name", "schema", "any_tags", "all_tags", "limit"]

/-- The request for an id. -/
def ofId : Value → Except Fault Request
  | .text s => if s = "" then .error (.badId (.text s)) else .ok (one s)
  | .number x => .ok (one (Value.number x).display)
  | v => .error (.badId v)

/-- The request for the fields of a query, with a limit of its own if they give none. -/
def ofQuery (defaultLimit : UInt64) (fields : Fields Value) : Except Fault Request :=
  let given := fields.filter fun f => !f.2.isAbsent
  match Query.ofJson (Value.record given).toJson with
  | .error why => .error (.mismatch why)
  | .ok query =>
    .ok (several
      (if Fields.contains given "limit" then query else { query with limit := defaultLimit }))

/-- The request in the filled props of a loader. -/
def ofProps (defaultLimit : UInt64) (props : Fields Value) : Except Fault Request :=
  match Fields.get? props "id" with
  | some id => ofId id
  | none =>
    match Fields.get? props "query" with
    | some (.record fields) => ofQuery defaultLimit fields
    | some v => .error (.badQuery v)
    | none => ofQuery defaultLimit (props.filter fun p => queryProps.contains p.1)

end Request

end ViewTree
