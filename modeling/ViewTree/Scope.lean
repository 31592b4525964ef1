import ViewTree.Value.Basic

/-!
# Scope — what names stand for

A scope is a pile of layers, the innermost first.  Putting a layer on a scope leaves the scope as
it was, so the parts of a tree never see each other's bindings.  A name stands for its value in the
innermost layer that has it.

* `get?_layer`: a name stands for what the last binding of the new layer gives it, and else for
  what it stood for before.
* `bindings`: the one table with the same bindings.
-/

namespace ViewTree

/-- A pile of layers. -/
structure Scope where
  /-- The layers, the innermost first. -/
  layers : List (Fields Value)
  /-- Every layer is in the order of its names. -/
  ordered : ∀ layer ∈ layers, Fields.Ordered layer
  inhabited : ∀ layer ∈ layers, layer ≠ []

namespace Scope

/-- The scope without bindings. -/
def empty : Scope :=
  ⟨[], by simp, by simp⟩

instance : Inhabited Scope := ⟨empty⟩

/-- The scope with a layer of bindings over it; of two bindings of one name the later one counts.
No bindings make no layer. -/
def layer (scope : Scope) (bindings : List (String × Value)) : Scope :=
  let top := Fields.ofList bindings
  if h : top = [] then scope
  else {
    layers := top :: scope.layers
    ordered := fun l hl => by
      rcases List.mem_cons.1 hl with rfl | hl
      · exact Fields.ordered_ofList bindings
      · exact scope.ordered l hl
    inhabited := fun l hl => by
      rcases List.mem_cons.1 hl with rfl | hl
      · exact h
      · exact scope.inhabited l hl }

/-- The scope with one more binding over it. -/
def bind (scope : Scope) (name : String) (value : Value) : Scope :=
  scope.layer [(name, value)]

/-- The scope whose bindings are the fields of a record; no other value has bindings. -/
def ofValue : Value → Scope
  | .record fields => empty.layer fields
  | _ => empty

/-- What a name stands for. -/
def get? (scope : Scope) (name : String) : Option Value :=
  scope.layers.findSome? fun layer => Fields.get? layer name

/-- Whether a name stands for something. -/
def binds (scope : Scope) (name : String) : Bool :=
  (scope.get? name).isSome

/-- The number of layers. -/
def height (scope : Scope) : Nat :=
  scope.layers.length

/-- All bindings in one table. -/
def bindings (scope : Scope) : Fields Value :=
  scope.layers.foldr (fun layer fs => Fields.insertAll layer fs) []

/-- All bindings as a record. -/
def toValue (scope : Scope) : Value :=
  .record scope.bindings

theorem get?_empty (name : String) : empty.get? name = none := rfl

theorem get?_layer (scope : Scope) (bs : List (String × Value)) (name : String) :
    (scope.layer bs).get? name = (Fields.get? (Fields.ofList bs) name).or (scope.get? name) := by
  by_cases h : Fields.ofList bs = []
  · have hl : scope.layer bs = scope := dif_pos h
    rw [hl, h, Fields.get?_nil, Option.none_or]
  · have hl : (scope.layer bs).layers = Fields.ofList bs :: scope.layers :=
      congrArg layers (dif_neg h)
    rw [get?, hl, List.findSome?_cons]
    cases Fields.get? (Fields.ofList bs) name <;> rfl

end Scope

/-! ### Names with a meaning of their own -/

/-- The caller's view model. -/
def stateName : String := "state"

/-- What a data loader loaded, unless it names its result. -/
def dataName : String := "data"

/-- The element of an iteration. -/
def itemName : String := "item"

/-- The position of an iteration, from 0 on. -/
def indexName : String := "index"

/-- The arguments of a handler and the value it is invoked with. -/
def argsName : String := "args"

/-- The event a handler is invoked with. -/
def eventName : String := "event"

/-- The value in the arguments, or in an event. -/
def valueName : String := "value"

end ViewTree
