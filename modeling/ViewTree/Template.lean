import ViewTree.Expression
import ViewTree.Value.Json

/-!
# Template — texts with expressions in them

A template is a text in which expressions stand between double braces; a brace pair that is never
closed is text.  A template that is one expression and nothing else keeps the type of its value,
any other is spliced together from the displayed values.  `fill` does this to every text inside a
value and leaves its shape alone.
-/

namespace ViewTree.Template

open Text

/-- A piece of a template. -/
inductive Piece where
  | literal (text : List Char)
  /-- An expression, with the blanks around it. -/
  | expression (text : List Char)
deriving DecidableEq, Repr

/-- The mark before an expression. -/
def opening : List Char := ['\x7b', '\x7b']

/-- The mark after an expression. -/
def closing : List Char := ['\x7d', '\x7d']

/-- A literal, unless it is empty. -/
def literals (text : List Char) : List Piece :=
  if text.isEmpty then [] else [.literal text]

/-- The pieces of a template. -/
def parse (s : List Char) : List Piece :=
  match h : cut opening s with
  | none => literals s
  | some (before, afterOpening) =>
    match h' : cut closing afterOpening with
    | none => literals s
    | some (expression, rest) =>
      have shorter : rest.length < s.length := by
        have := length_of_cut h
        have := length_of_cut h'
        simp only [opening, closing, List.length_cons, List.length_nil] at *
        omega
      literals before ++ .expression expression :: parse rest
termination_by s.length

/-- Whether a piece is an expression. -/
def Piece.isExpression : Piece → Bool
  | .literal _ => false
  | .expression _ => true

/-- Whether there are expressions in a text. -/
def hasExpressions (s : List Char) : Bool :=
  (parse s).any Piece.isExpression

/-- A piece as it is spliced into a text. -/
def Piece.splice (scope : Scope) : Piece → List Char
  | .literal text => text
  | .expression text => (Expression.eval scope text).display.toList

/-- The value of a template. -/
def fillText (scope : Scope) (s : String) : Value :=
  match parse s.toList with
  | [.expression text] => Expression.eval scope text
  | pieces =>
    if pieces.any Piece.isExpression then
      .text (String.ofList (pieces.flatMap (Piece.splice scope)))
    else .text s

mutual

/-- The value with every template in it filled in. -/
def fill (scope : Scope) : Value → Value
  | .text s => fillText scope s
  | .list items => .list (fillItems scope items)
  | .record fields => .record (fillFields scope fields)
  | v => v

/-- `fill` for the items of a list. -/
def fillItems (scope : Scope) : List Value → List Value
  | [] => []
  | v :: vs => fill scope v :: fillItems scope vs

/-- `fill` for the fields of a record. -/
def fillFields (scope : Scope) : List (String × Value) → List (String × Value)
  | [] => []
  | (name, v) :: fs => (name, fill scope v) :: fillFields scope fs

end

end ViewTree.Template
