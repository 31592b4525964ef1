import ViewTree.Calc.Evaluation
import ViewTree.Text.Cut

/-!
# Expression — what stands between double braces

An expression is a calculation, a comparison, a literal or a path.  Evaluation never fails: a
calculation that fails is 0 and a path that leads nowhere is `undefined`.

A comparison chain `a === b !== c` groups to the right: it compares `a` with the outcome of
`b !== c`.  `Chain.split` takes the text apart and `Chain.value` folds the operands from the right.
-/

namespace ViewTree.Expression

open Text

/-! ### Calculations -/

/-- Whether a parenthesis closes more than `depth` parentheses opened before. -/
def closesEarly (depth : Nat) : List Char → Bool
  | [] => false
  | c :: s =>
    if c = '(' then closesEarly (depth + 1) s
    else if c = ')' then match depth with
      | 0 => true
      | depth + 1 => closesEarly depth s
    else closesEarly depth s

/-- How a calculation opens. -/
def calcOpening : List Char :=
  ['c', 'a', 'l', 'c', '(']

/-- What stands between `calc(` and the parenthesis at the end, unless that parenthesis closes
another one. -/
def calculation? (s : List Char) : Option (List Char) :=
  if calcOpening.isPrefixOf s then
    let inner := s.drop calcOpening.length
    if inner.getLast? = some ')' ∧ closesEarly 0 inner.dropLast = false then some inner.dropLast
    else none
  else none

/-! ### Literals -/

/-- Digits, with a point among them or not, after an optional minus sign. -/
def isNumeral (s : List Char) : Bool :=
  let unsigned := match s with
    | '-' :: r => r
    | r => r
  let allDigits := fun (ds : List Char) => !ds.isEmpty && ds.all Char.isDigit
  match cut ['.'] unsigned with
  | some (whole, fraction) => allDigits whole && allDigits fraction
  | none => allDigits unsigned

/-- What stands between two quotes of one kind. -/
def quotedText? : List Char → Option (List Char)
  | q :: s =>
    if (q = '\'' ∨ q = '"') ∧ s.getLast? = some q then some s.dropLast else none
  | [] => none

/-- The value of a literal. -/
def literal? (s : List Char) : Option Value :=
  if s = ['t', 'r', 'u', 'e'] then some (.bool true)
  else if s = ['f', 'a', 'l', 's', 'e'] then some (.bool false)
  else if s = ['n', 'u', 'l', 'l'] then some .null
  else if s = ['u', 'n', 'd', 'e', 'f', 'i', 'n', 'e', 'd'] then some .undefined
  else if isNumeral s then (Number.parse? s).map .number
  else (quotedText? s).map fun t => .text (String.ofList t)

/-- The value of a calculation, a literal or a path. -/
def operand (scope : Scope) (s : List Char) : Value :=
  match calculation? s with
  | some body => .number (Calc.value scope body)
  | none => (literal? s).getD (scope.lookup s)

/-! ### Comparisons -/

/-- A comparison between two operands. -/
structure Comparison where
  left : List Char
  /-- Whether the operator is `!==`. -/
  negated : Bool
  right : List Char

/-- The operator that a text starts with, and what follows it. -/
def operator? : List Char → Option (Bool × List Char)
  | '=' :: '=' :: '=' :: s => some (false, s)
  | '!' :: '=' :: '=' :: s => some (true, s)
  | _ => none

/-- The state of a scan after a character: which quote is open. -/
def quoteAfter (quote : Option Char) (c : Char) : Option Char :=
  match quote with
  | some q => if c = q then none else some q
  | none => if c = '\'' ∨ c = '"' then some c else none

/-- The first comparison outside quotes. -/
def splitFrom (quote : Option Char) : List Char → Option Comparison
  | [] => none
  | c :: s =>
    let here := if quote.isNone then operator? (c :: s) else none
    match here with
    | some (negated, rest) => some ⟨[], negated, rest⟩
    | none =>
      (splitFrom (quoteAfter quote c) s).map fun found => { found with left := c :: found.left }

/-- The first comparison of a text. -/
def split? (s : List Char) : Option Comparison :=
  splitFrom none s

theorem length_of_operator {s rest : List Char} {negated : Bool}
    (h : operator? s = some (negated, rest)) : rest.length < s.length := by
  unfold operator? at h
  split at h
  · cases h; simp only [List.length_cons]; omega
  · cases h; simp only [List.length_cons]; omega
  · cases h

theorem length_of_splitFrom {quote : Option Char} {s : List Char} {found : Comparison}
    (h : splitFrom quote s = some found) : found.right.length < s.length := by
  induction s generalizing quote found with
  | nil => cases h
  | cons c s ih =>
    rw [splitFrom] at h
    split at h
    · next negated rest hop =>
      cases h
      cases quote with
      | none => exact length_of_operator hop
      | some q => cases hop
    · obtain ⟨inner, hinner, rfl⟩ := Option.map_eq_some_iff.1 h
      have shorter := ih hinner
      exact Nat.lt_succ_of_lt shorter

/-- Operands with comparisons between them. -/
structure Chain where
  /-- Each operand but the last, and whether the operator after it is `!==`. -/
  links : List (List Char × Bool)
  last : List Char

/-- The operands of a text. -/
def Chain.split (s : List Char) : Chain :=
  match h : split? s with
  | some found =>
    have := length_of_splitFrom h
    let chain := Chain.split found.right
    ⟨(found.left, found.negated) :: chain.links, chain.last⟩
  | none => ⟨[], s⟩
termination_by s.length

/-- The value of a chain, compared from the right. -/
def Chain.value (scope : Scope) (chain : Chain) : Value :=
  chain.links.foldr
    (fun (left, negated) right => .bool ((operand scope (trim left) == right) != negated))
    (operand scope (trim chain.last))

/-- The value of an expression. -/
def eval (scope : Scope) (s : List Char) : Value :=
  let s := trim s
  match calculation? s with
  | some body => .number (Calc.value scope body)
  | none => (Chain.split s).value scope

end ViewTree.Expression
