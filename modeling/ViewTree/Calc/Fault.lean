import ViewTree.Text.Numeral

/-!
# Calc — why a calculation has no result

The causes, from the first character that is refused to the last operation that fails, and the
message of each.
-/

namespace ViewTree.Calc

/-- The operations on two operands. -/
inductive Operator where
  | sum
  | difference
  | product
  | quotient
  | remainder
deriving DecidableEq, Repr

/-- The name of an operator. -/
def Operator.name : Operator → String
  | .sum => "Add"
  | .difference => "Sub"
  | .product => "Mul"
  | .quotient => "Div"
  | .remainder => "Mod"

/-- What should have stood in the place of a token. -/
inductive Wanted where
  | operand
  | closing
  | continuation
  | digits
deriving DecidableEq, Repr

/-- The words for what is wanted. -/
def Wanted.describe : Wanted → String
  | .operand => "number, identifier or '('"
  | .closing => "')'"
  | .continuation => "operator or end of input"
  | .digits => "number"

/-- Why an operation has no result. -/
inductive Trap where
  | zeroDivisor
  /-- The divisor is zero and the rest is wanted. -/
  | zeroModulus
  | notFinite (op : Operator)
deriving DecidableEq, Repr

/-- The words for a trap. -/
def Trap.describe : Trap → String
  | .zeroDivisor => "division by zero"
  | .zeroModulus => "modulo by zero"
  | .notFinite op => op.name ++ " produced NaN/Infinity"

/-- Why a calculation has no result.  Offsets count bytes. -/
inductive Fault where
  /-- A character that no token starts with. -/
  | strayChar (c : Char) (offset : Nat)
  | misplaced (found : String) (offset : Nat) (wanted : Wanted)
  | cutShort
  /-- A path that does not lead to a number, or the text it leads to. -/
  | notNumeric (operand : String)
  | trap (cause : Trap)
  | tooDeep (limit : Nat)
deriving DecidableEq, Repr

open Text in
/-- The message of a fault. -/
def Fault.message : Fault → String
  | .strayChar c offset =>
    "unexpected character '" ++ String.ofList [c] ++ "' at offset " ++ String.ofList (digits offset)
  | .misplaced found offset wanted =>
    "unexpected " ++ found ++ " at offset " ++ String.ofList (digits offset) ++ ", expected "
      ++ wanted.describe
  | .cutShort => "unexpected end of expression"
  | .notNumeric operand => "non-numeric operand '" ++ operand ++ "'"
  | .trap cause => "arithmetic trap: " ++ cause.describe
  | .tooDeep limit =>
    "maximum expression nesting depth is " ++ String.ofList (digits limit)

end ViewTree.Calc
