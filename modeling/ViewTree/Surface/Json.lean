import ViewTree.Surface.Basic

/-!
# Surface — surfaces as documents

A surface as a host reads it: a text is a text, a fragment an array, a component an object with its
name and props, its handlers and its children if it has any; everything else is an object that
names what it is.
-/

namespace ViewTree.Surface

/-- The handlers of a component as documents. -/
def handlersToJson (hs : Fields Handler) : List (String × Json) :=
  hs.map fun (name, h) => (name, h.toJson)

/-- A field that is left out if its document has nothing in it. -/
def fieldUnless (omitted : Bool) (name : String) (j : Json) : List (String × Json) :=
  if omitted then [] else [(name, j)]

mutual

/-- The surface as a document. -/
def toJson : Surface → Json
  | empty => .null
  | text s => .text s
  | fragment items => .array (listToJson items)
  | node component props handlers children =>
    .object (
      fieldUnless children.isEmpty "children" (.array (listToJson children))
        ++ [("component", .text component)]
        ++ fieldUnless handlers.isEmpty "handlers" (.object (handlersToJson handlers))
        ++ [("props", .object (Value.fieldsToJson props))])
  | loading request => .object [("loading", .text request.key)]
  | noData message => .object [("error", .text message)]
  | unknown name => .object [("unknown", .text name)]
  | malformed reason => .object [("malformed", .text reason)]
  | crashed name message => .object [("failed", .text name), ("message", .text message)]
  | tooDeep limit => .object [("depth_exceeded", .int limit)]

/-- The documents of surfaces one after the other. -/
def listToJson : List Surface → List Json
  | [] => []
  | s :: ss => toJson s :: listToJson ss

end

end ViewTree.Surface
