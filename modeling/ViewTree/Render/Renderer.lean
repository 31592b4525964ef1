import ViewTree.Settings
import ViewTree.Surface.Basic

/-!
# Render — renderers and the roles of components

A renderer has settings and the components that the host provides.  A component of a tree is one
of the two directives, a component of the host, an element of the host or unknown, in this order.
-/

namespace ViewTree

/-- What a component of the host is given. -/
structure HostInput where
  name : String
  /-- The props, filled in, without the children. -/
  props : Fields Value
  handlers : Fields Handler
  /-- The children, rendered. -/
  children : List Surface
  scope : Scope

/-- A component of the host, which may crash. -/
abbrev HostComponent := HostInput → Except Crash Surface

/-- Settings and the components of the host. -/
structure Renderer where
  settings : Settings
  hostComponents : Fields HostComponent

/-- What the name of a component stands for. -/
inductive Role where
  /-- The directive that shows one of two nodes. -/
  | conditional
  /-- The directive that waits for data. -/
  | loader
  | hosted (c : HostComponent)
  | element
  | unknown

/-- The word for a role. -/
def Role.describe : Role → String
  | .conditional => "conditional"
  | .loader => "data_loader"
  | .hosted _ => "capability"
  | .element => "primitive"
  | .unknown => "unknown"

namespace Renderer

/-- The renderer without components of the host. -/
def plain (settings : Settings) : Renderer := ⟨settings, []⟩

/-- What the name of a component stands for. -/
def role (r : Renderer) (name : String) : Role :=
  if name = r.settings.conditionalName then .conditional
  else if name = r.settings.dataLoaderName then .loader
  else match Fields.get? r.hostComponents name with
    | some c => .hosted c
    | none => if r.settings.isElement name then .element else .unknown

end Renderer

end ViewTree
