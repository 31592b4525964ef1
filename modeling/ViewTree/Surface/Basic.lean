import ViewTree.Data.Request
import ViewTree.Handler.Binding

/-!
# Surface — what rendering gives

The output of rendering, handed to the host.  Everything that can go wrong in one place of a tree
is a surface of its own and leaves its neighbours alone.

* `asChildren`: the surface as a list of children, fragments spliced and empties dropped.
* `preorder`: a surface and all surfaces in it, each before those inside it; the other views pick
  from it in that order.
-/

namespace ViewTree

/-- The output of rendering. -/
inductive Surface where
  | empty
  | text (s : String)
  /-- Surfaces one after the other. -/
  | fragment (items : List Surface)
  | node (component : String) (props : Fields Value) (handlers : Fields Handler)
      (children : List Surface)
  /-- A data loader that waits for an answer. -/
  | loading (request : Request)
  /-- A data loader that gets no data. -/
  | noData (message : String)
  | unknown (name : String)
  | malformed (reason : String)
  | crashed (name message : String)
  | tooDeep (limit : Nat)

namespace Surface

instance : Inhabited Surface := ⟨empty⟩

mutual

/-- The surface as a list of children. -/
def asChildren : Surface → List Surface
  | empty => []
  | fragment items => listAsChildren items
  | s => [s]

/-- `asChildren` for surfaces one after the other. -/
def listAsChildren : List Surface → List Surface
  | [] => []
  | s :: ss => asChildren s ++ listAsChildren ss

end

mutual

/-- Whether there is nothing to show. -/
def isBlank : Surface → Bool
  | empty => true
  | fragment items => listIsBlank items
  | _ => false

/-- `isBlank` for surfaces one after the other. -/
def listIsBlank : List Surface → Bool
  | [] => true
  | s :: ss => isBlank s && listIsBlank ss

end

mutual

/-- A surface and all surfaces in it, each before those inside it. -/
def preorder : Surface → List Surface
  | fragment items => fragment items :: listPreorder items
  | node component props handlers children =>
    node component props handlers children :: listPreorder children
  | s => [s]

/-- `preorder` for surfaces one after the other. -/
def listPreorder : List Surface → List Surface
  | [] => []
  | s :: ss => preorder s ++ listPreorder ss

end

/-- The text of a text surface. -/
def ownText : Surface → String
  | text s => s
  | _ => ""

/-- All texts in a surface, one after the other. -/
def content (s : Surface) : String :=
  String.join (s.preorder.map ownText)

/-- Whether a surface is a component of a given name. -/
def isComponent (name : String) : Surface → Bool
  | node component _ _ _ => component == name
  | _ => false

/-- The components of a given name in a surface. -/
def components (s : Surface) (name : String) : List Surface :=
  s.preorder.filter (isComponent name)

/-- The handler of a component under a given name. -/
def ownHandler? (name : String) : Surface → Option Handler
  | node _ _ handlers _ => Fields.get? handlers name
  | _ => none

/-- The handlers of a given name in a surface. -/
def handlersNamed (s : Surface) (name : String) : List Handler :=
  s.preorder.filterMap (ownHandler? name)

/-- The request that a surface waits for. -/
def ownRequest? : Surface → Option Request
  | loading request => some request
  | _ => none

/-- The requests that a surface waits for. -/
def requests (s : Surface) : List Request :=
  s.preorder.filterMap ownRequest?

end Surface

end ViewTree
