import ViewTree.Render.Settle

/-!
# View — a renderer with a base scope

A view holds the state and the data that every render of it starts from.  Changing them changes the
next render and no handler that is bound already.
-/

namespace ViewTree

/-- A renderer with the state and the data that every render starts from. -/
structure View where
  renderer : Renderer
  /-- The caller's view model. -/
  state : Value
  /-- Records loaded beforehand. -/
  data : Value

namespace View

variable {σ : Type}

/-- The view with an empty state and without data. -/
def ofRenderer (r : Renderer) : View := ⟨r, .record [], .undefined⟩

/-- The scope that a render starts from. -/
def scope (view : View) : Scope :=
  Scope.empty.layer [(stateName, view.state), (dataName, view.data)]

/-- The surface of a node. -/
def render (view : View) (cache : Cache) (v : Value) : Surface :=
  view.renderer.render cache v view.scope

/-- The surface of a node once what it waits for is settled. -/
def renderAndSettle (view : View) (client? : Option (Client σ)) (v : Value) (cache : Cache)
    (s : σ) : Rendered σ :=
  view.renderer.renderAndSettle client? v view.scope cache s

end View

end ViewTree
