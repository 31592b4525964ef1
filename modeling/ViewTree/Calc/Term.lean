import ViewTree.Calc.Token

/-!
# Calc — terms

The structure of a calculation.  Sums and differences bind weakest, then products, quotients and
remainders, then signs before an operand; operators of one strength group to the left.  A plus sign
before an operand and parentheses leave nothing behind.

`operand levels` reads an operand in which signs and parentheses nest at most `levels` deep; the
recursion runs on that number, and the two chains above it on the tokens that are left.
-/

namespace ViewTree.Calc

open Text

/-- The structure of a calculation. -/
inductive Term where
  | number (x : Float)
  /-- A path, looked up when the term is evaluated. -/
  | path (p : String)
  | negative (t : Term)
  | binary (op : Operator) (left right : Term)

namespace Term

/-- How deeply signs and parentheses may nest. -/
def maxLevels : Nat := 32

/-- The operators that bind weakest. -/
def weakOperator? : Kind → Option Operator
  | .sign .plus => some .sum
  | .sign .minus => some .difference
  | _ => none

/-- The operators that bind more strongly. -/
def strongOperator? : Kind → Option Operator
  | .sign .times => some .product
  | .sign .over => some .quotient
  | .sign .percent => some .remainder
  | _ => none

/-- The fault of a token in the wrong place. -/
def misplaced (t : Token) (wanted : Wanted) : Fault :=
  match t.kind with
  | .finish => .cutShort
  | kind => .misplaced kind.describe t.offset wanted

/-- A reader of terms from the front of a sequence of tokens. -/
abbrev Reader := (ts : List Token) → Except Fault (Parsed Term ts)

/-- A term already read, with every operator and operand that follow it, grouped to the left. -/
def chainFrom (operator? : Kind → Option Operator) (operand : Reader) {ts : List Token}
    (left : Parsed Term ts) : Except Fault (Parsed Term ts) :=
  match h : left.rest with
  | [] => .ok left
  | t :: rest => match operator? t.kind with
    | none => .ok left
    | some op => do
      let right ← operand rest
      have shorter : right.rest.length < left.rest.length := by
        rw [h]
        exact Nat.lt_succ_of_lt right.shorter
      chainFrom operator? operand
        ⟨binary op left.value right.value, right.rest, Nat.lt_trans shorter left.shorter⟩
termination_by left.rest.length

/-- Operands with operators between them. -/
def chain (operator? : Kind → Option Operator) (operand : Reader) : Reader := fun ts => do
  chainFrom operator? operand (← operand ts)

/-- A whole calculation over operands. -/
def whole (operand : Reader) : Reader :=
  chain weakOperator? (chain strongOperator? operand)

/-- A term and the parenthesis that closes it. -/
def closed {ts : List Token} (inner : Parsed Term ts) : Except Fault (Parsed Term ts) :=
  match h : inner.rest with
  | [] => .error .cutShort
  | t :: rest => match t.kind with
    | .sign .closing => .ok ⟨inner.value, rest, by
        have := inner.shorter
        rw [h] at this
        exact Nat.lt_of_succ_lt this⟩
    | _ => .error (misplaced t .closing)

/-- A number, a path, a sign before an operand, or a calculation in parentheses. -/
def operand (levels : Nat) (ts : List Token) : Except Fault (Parsed Term ts) :=
  match ts with
  | [] => .error .cutShort
  | t :: rest => match t.kind with
    | .number x => .ok (.one (number x))
    | .path p => .ok (.one (path p))
    | .sign .minus => match levels with
      | 0 => .error (.tooDeep maxLevels)
      | levels + 1 => do
        let inner ← operand levels rest
        return (inner.map negative).after
    | .sign .plus => match levels with
      | 0 => .error (.tooDeep maxLevels)
      | levels + 1 => do
        let inner ← operand levels rest
        return inner.after
    | .sign .opening => match levels with
      | 0 => .error (.tooDeep maxLevels)
      | levels + 1 => do
        let inner ← whole (operand levels) rest
        return (← closed inner).after
    | _ => .error (misplaced t .operand)

/-- The term that tokens spell, up to the token for the end. -/
def ofTokens (ts : List Token) : Except Fault Term := do
  let t ← whole (operand maxLevels) ts
  match t.rest with
  | [] => return t.value
  | next :: _ => match next.kind with
    | .finish => return t.value
    | _ => throw (misplaced next .continuation)

/-- The term that a text spells. -/
def parse (s : List Char) : Except Fault Term := do
  ofTokens (← Token.scan s)

end Term

end ViewTree.Calc
