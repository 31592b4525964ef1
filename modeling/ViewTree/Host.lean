import ViewTree.Render.Basic
import ViewTree.Surface.Json

/-!
# Host — entry points over text

A host that holds no values calls these functions with JSON texts and gets a JSON text back.  A
text of nothing but blanks stands for `undefined`.  There is no store: a host fetches what a
surface waits for by itself and gives it to its `Session`, which keeps it between renders.
-/

namespace ViewTree.Host

open Text

/-- The texts that a host passes. -/
inductive Argument where
  /-- A node definition. -/
  | node
  /-- The fields of a scope. -/
  | scope
  /-- A value with templates. -/
  | template
  /-- The answer to a request. -/
  | result
deriving DecidableEq, Repr

/-- The name of an argument. -/
def Argument.name : Argument → String
  | .node => "node"
  | .scope => "context"
  | .template => "template"
  | .result => "result"

/-- Why a call is refused. -/
inductive Refusal where
  | badArgument (argument : Argument)
  | badSettings (fault : SettingsFault)
deriving DecidableEq, Repr

/-- The message of a refusal, up to the reader's own account of what is wrong with the text: where
a text is no document, the message names its argument and not the place or the cause. -/
def Refusal.message : Refusal → String
  | .badArgument argument => "invalid " ++ argument.name ++ " JSON"
  | .badSettings fault => fault.message

/-- The value that an argument holds. -/
def read (argument : Argument) (text : String) : Except Refusal Value :=
  if allBlank text.toList then .ok .undefined
  else match Json.parse? Json.maxLevels text with
    | some j => .ok (.ofJson j)
    | none => .error (.badArgument argument)

/-- The scope that an argument holds. -/
def readScope (text : String) : Except Refusal Scope :=
  (read .scope text).map Scope.ofValue

/-- The settings that a text holds. -/
def readSettings (text : String) : Except Refusal Settings :=
  (Settings.parse text).mapError .badSettings

/-- A surface with the keys of the requests it waits for. -/
def envelope (s : Surface) : Json :=
  .object [("success", .bool true), ("surface", s.toJson),
    ("pending", .array (s.requests.map fun r => .text r.key)), ("error", .null)]

/-- What a render that is refused gives. -/
def refusedEnvelope (why : Refusal) : Json :=
  .object [("success", .bool false), ("surface", .null), ("pending", .array []),
    ("error", .text why.message)]

/-- The text that a host gets for a render. -/
def write : Except Refusal Surface → String
  | .ok s => (envelope s).render
  | .error why => (refusedEnvelope why).render

/-- The surface of a node, both given as texts. -/
def surfaceBy (r : Renderer) (cache : Cache) (node scope : String) : Except Refusal Surface := do
  let v ← read .node node
  let scope ← readScope scope
  return r.render cache v scope

/-- The surface of a node under the default settings. -/
def surface (node scope : String) : Except Refusal Surface :=
  surfaceBy (.plain .default) .empty node scope

/-- The surface of a node under settings of its own. -/
def surfaceUnder (settings node scope : String) : Except Refusal Surface := do
  surfaceBy (.plain (← readSettings settings)) .empty node scope

/-- The value of an expression. -/
def value (expression scope : String) : Except Refusal String := do
  let scope ← readScope scope
  return (Expression.eval scope expression.toList).toJson.render

/-- A value with its templates filled in. -/
def filled (template scope : String) : Except Refusal String := do
  let v ← read .template template
  let scope ← readScope scope
  return (Template.fill scope v).toJson.render

/-- The version of these functions. -/
def version : String := "0.1.0"

/-- What a host gave between renders. -/
structure Session where
  settings : Settings
  cache : Cache

namespace Session

/-- A new session; blank settings are the default ones. -/
def start (settings : String) : Except Refusal Session :=
  if allBlank settings.toList then .ok ⟨.default, .empty⟩
  else (readSettings settings).map fun s => ⟨s, .empty⟩

/-- The surface of a node. -/
def surface (s : Session) (node scope : String) : Except Refusal Surface :=
  surfaceBy (.plain s.settings) s.cache node scope

/-- Takes the answer to a request. -/
def answer (s : Session) (key result : String) : Except Refusal Session := do
  let v ← read .result result
  return { s with cache := s.cache.insert key (.ready v) }

/-- Takes notice that a request failed. -/
def giveUp (s : Session) (key message : String) : Session :=
  { s with cache := s.cache.insert key (.failed message) }

/-- Whether anything is known of a request. -/
def knows (s : Session) (key : String) : Bool :=
  !s.cache.isFree key

/-- Forgets a request. -/
def forget (s : Session) (key : String) : Session :=
  { s with cache := s.cache.forget key }

/-- Forgets all requests. -/
def forgetAll (s : Session) : Session :=
  { s with cache := .empty }

end Session

end ViewTree.Host
