import ViewTree.Calc.Term
import ViewTree.Number.Remainder
import ViewTree.Path

/-!
# Calc — evaluation

Paths are looked up first: a number counts as it is, a truth value as 1 or 0, a text as the number
it spells, and nothing else is a number.  An operation whose result is not finite fails.  A
calculation that fails counts as 0.
-/

namespace ViewTree.Calc

open Text

/-- The number that a path leads to. -/
def operandValue (scope : Scope) (p : String) : Except Fault Float :=
  match scope.lookup p.toList with
  | .number x => .ok x
  | .bool true => .ok 1
  | .bool false => .ok 0
  | .text s => match Number.parse? (trim s.toList) with
    | some x => .ok x
    | none => .error (.notNumeric s)
  | _ => .error (.notNumeric p)

/-- A result, if it is finite. -/
def finite (op : Operator) (x : Float) : Except Fault Float :=
  if x.isFinite then .ok x else .error (.trap (.notFinite op))

/-- The result of an operation. -/
def Operator.result (op : Operator) (x y : Float) : Except Fault Float :=
  match op with
  | .sum => finite .sum (x + y)
  | .difference => finite .difference (x - y)
  | .product => finite .product (x * y)
  | .quotient => if y == 0 then .error (.trap .zeroDivisor) else finite .quotient (x / y)
  | .remainder =>
    if y == 0 then .error (.trap .zeroModulus) else finite .remainder (Number.remainder x y)

/-- The value of a term; of two operands that fail the left one gives the fault. -/
def Term.eval (scope : Scope) : Term → Except Fault Float
  | .number x => .ok x
  | .path p => operandValue scope p
  | .negative t => do
    let x ← t.eval scope
    return -x
  | .binary op left right => do
    let x ← left.eval scope
    let y ← right.eval scope
    op.result x y

/-- The result of a calculation. -/
def run (scope : Scope) (body : List Char) : Except Fault Float := do
  let t ← Term.parse body
  t.eval scope

/-- The result of a calculation, 0 if it fails. -/
def value (scope : Scope) (body : List Char) : Float :=
  match run scope body with
  | .ok x => x
  | .error _ => 0

end ViewTree.Calc
