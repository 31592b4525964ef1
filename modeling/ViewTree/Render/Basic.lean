import ViewTree.Data.Cache
import ViewTree.Node
import ViewTree.Render.Renderer

/-!
# Render — from a node to a surface

`render` walks over a node definition in a scope and gives a surface.  It never fails: a malformed
node, an unknown component, a loader without an answer and a crashed component each become a
surface in their own place.  It reads the cache and does not change it.

Each level of nesting is one step of `renderAt`, the recursion of which runs on the levels that are
left.  The functions before it render one level, given how the level below is rendered.
-/

namespace ViewTree.Renderer

/-- How nodes one level below are rendered. -/
abbrev Below := Value → Scope → Surface

/-- The text of a leaf; nothing where the text is one expression without a value. -/
def leaf (v : Value) : Surface :=
  if v.isAbsent then .empty else .text v.display

/-! ### Iterations -/

/-- The elements of a source, none if it is not a list. -/
def elements (source : Value) : List Value :=
  source.items?.getD []

/-- The scope of an element. -/
def elementScope (scope : Scope) (item : Value) (index : Nat) : Scope :=
  scope.layer [(itemName, item), (indexName, .number (Number.ofNat index))]

/-- A node for each element of a source. -/
def iterate (below : Below) (source item : Value) (scope : Scope) : Surface :=
  .fragment ((elements (Template.fill scope source)).zipIdx.map fun (v, i) =>
    below item (elementScope scope v i))

/-! ### Directives -/

/-- A node if there is one. -/
def optional (below : Below) (scope : Scope) : Option Value → Surface
  | some node => below node scope
  | none => .empty

/-- One of two nodes. -/
def conditional (below : Below) (props : Fields Value) (scope : Scope) : Surface :=
  let condition := ((Fields.get? props "condition").map (Template.fill scope)).getD .undefined
  optional below scope (Fields.get? props (if condition.holds then "render" else "else"))

/-- The props without the children. -/
def withoutChildren (props : Fields Value) : Fields Value :=
  props.filter fun p => p.1 ≠ childrenName

/-- The name that a loader gives its answer. -/
def answerName (props : Fields Value) : String :=
  match (Fields.get? props "as").bind Value.text? with
  | some name => if name = "" then dataName else name
  | none => dataName

/-- The children of a loader, once its request is answered. -/
def load (settings : Settings) (cache : Cache) (below : Below) (props : Fields Value)
    (scope : Scope) : Surface :=
  let filled := Template.fillFields scope (withoutChildren props)
  match Request.ofProps settings.defaultLimit filled with
  | .error fault => .noData fault.message
  | .ok request => match cache.get? request.key with
    | none => .loading request
    | some .awaited => .loading request
    | some (.failed message) => .noData message
    | some (.ready answer) =>
      optional below (scope.bind (answerName filled) answer) (Fields.get? props childrenName)

/-! ### Components -/

/-- The props that are values, filled in. -/
def valueProps (policy : Policy) (props : Fields Value) (scope : Scope) : Fields Value :=
  Template.fillFields scope
    ((withoutChildren props).filter fun p => !policy.bindsHandler p.1)

/-- The props that are handlers, bound. -/
def handlerProps (policy : Policy) (props : Fields Value) (scope : Scope) : Fields Handler :=
  Handler.bindAll policy scope ((withoutChildren props).filter fun p => policy.bindsHandler p.1)

/-- The children of a component. -/
def children (below : Below) (props : Fields Value) (scope : Scope) : List Surface :=
  (optional below scope (Fields.get? props childrenName)).asChildren

/-- A component of the host. -/
def hosted (policy : Policy) (c : HostComponent) (below : Below) (name : String)
    (props : Fields Value) (scope : Scope) : Surface :=
  match c ⟨name, valueProps policy props scope, handlerProps policy props scope,
      children below props scope, scope⟩ with
  | .ok surface => surface
  | .error crash => .crashed name crash.describe

/-- A component. -/
def component (r : Renderer) (cache : Cache) (below : Below) (name : String)
    (props : Fields Value) (scope : Scope) : Surface :=
  let policy := r.settings.policy
  match r.role name with
  | .conditional => conditional below props scope
  | .loader => load r.settings cache below props scope
  | .hosted c => hosted policy c below name props scope
  | .element =>
    .node name (valueProps policy props scope) (handlerProps policy props scope)
      (children below props scope)
  | .unknown => .unknown name

/-! ### Nodes -/

/-- A node. -/
def node (r : Renderer) (cache : Cache) (below : Below) (v : Value) (scope : Scope) : Surface :=
  match Node.ofValue v with
  | .empty => .empty
  | .text s => leaf (Template.fillText scope s)
  | .scalar v => .text v.display
  | .sequence items => .fragment (items.map fun item => below item scope)
  | .iteration source item => iterate below source item scope
  | .component name props => r.component cache below name props scope
  | .malformed why => .malformed why.describe

/-- A node with a number of levels left; without one it lies too deep. -/
def renderAt (r : Renderer) (cache : Cache) : Nat → Value → Scope → Surface
  | 0 => fun _ _ => .tooDeep r.settings.maxDepth.toNat
  | levels + 1 => r.node cache (renderAt r cache levels)

/-- The surface of a node definition. -/
def render (r : Renderer) (cache : Cache) (v : Value) (scope : Scope) : Surface :=
  r.renderAt cache (r.settings.maxDepth.toNat + 1) v scope

end ViewTree.Renderer
