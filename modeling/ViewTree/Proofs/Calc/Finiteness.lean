import ViewTree.Proofs.Expression.Comparisons
import ViewTree.Proofs.Scope.Finiteness

/-!
# Calc — finite results

The result of an operation is checked to be finite, what its operands come from is not.  So over a
scope of finite numbers a calculation is finite unless there is no operation in it: a literal past
the largest number, or a text that spells an infinity or no number, goes through signs and
parentheses as it is.

* `isFinite_of_result`: operations give finite numbers only.
* `Term.Unchecked`, `unchecked_iff`: the terms and the texts whose value is not finite.
* `calculation_isFinite_iff`: the calculations whose value is not finite.
-/

namespace ViewTree.Calc

open Text

/-! ### Operations and operands -/

theorem isFinite_of_finite {op : Operator} {x y : Float} (h : finite op x = .ok y) :
    y.isFinite = true := by
  rw [finite] at h
  split at h
  · next hx => cases h; exact hx
  · cases h

/-- An operation that has a result has a finite one. -/
theorem isFinite_of_result {op : Operator} {x y z : Float} (h : op.result x y = .ok z) :
    z.isFinite = true := by
  cases op with
  | sum | difference | product => exact isFinite_of_finite h
  | quotient | remainder =>
      rw [Operator.result] at h
      split at h
      · cases h
      · exact isFinite_of_finite h

/-- What a path counts as is a number, a truth value, or what a text spells. -/
theorem operandValue_eq_ok {scope : Scope} {p : String} {x : Float}
    (h : operandValue scope p = .ok x) :
    scope.lookup p.toList = .number x ∨ x = 1 ∨ x = 0 ∨
      ∃ s, scope.lookup p.toList = .text s ∧ Number.parse? (trim s.toList) = some x := by
  rw [operandValue] at h
  split at h
  · next y hy => cases h; exact .inl hy
  · cases h; exact .inr (.inl rfl)
  · cases h; exact .inr (.inr (.inl rfl))
  · next s hs =>
      split at h
      · next y hy => cases h; exact .inr (.inr (.inr ⟨s, hs, hy⟩))
      · cases h
  · cases h

/-! ### Terms -/

/-- A term without an operation whose literal, or the text to which its path leads, is worth a
number that is not finite. -/
inductive Term.Unchecked (scope : Scope) : Term → Prop where
  | number {x : Float} (hx : x.isFinite = false) : Unchecked scope (.number x)
  | path {p s : String} {x : Float} (hp : scope.lookup p.toList = .text s)
      (hs : Number.parse? (trim s.toList) = some x) (hx : x.isFinite = false) :
      Unchecked scope (.path p)
  | negative {t : Term} (h : Unchecked scope t) : Unchecked scope (.negative t)

namespace Term

variable {scope : Scope} {t : Term} {x : Float}

/-- An unchecked term has a value, which is not finite. -/
theorem Unchecked.eval (h : t.Unchecked scope) :
    ∃ x, t.eval scope = .ok x ∧ x.isFinite = false := by
  induction h with
  | @number x hx => exact ⟨x, rfl, hx⟩
  | @path p s x hp hs hx =>
      refine ⟨x, ?_, hx⟩
      simp only [Term.eval, operandValue, hp, hs]
  | @negative t _ ih =>
      obtain ⟨x, heval, hx⟩ := ih
      refine ⟨-x, ?_, (Number.isFinite_neg x).trans hx⟩
      rw [Term.eval, heval]
      rfl

/-- Over finite numbers no other term has such a value. -/
theorem unchecked_of_eval (hscope : scope.IsFinite) (heval : t.eval scope = .ok x)
    (hx : x.isFinite = false) : t.Unchecked scope := by
  induction t generalizing x with
  | number y => cases heval; exact .number hx
  | path p =>
      rcases operandValue_eq_ok heval with hp | rfl | rfl | ⟨s, hp, hs⟩
      · have hfinite := hscope.lookup p.toList
        rw [hp] at hfinite
        rw [hfinite.isFinite_number] at hx
        cases hx
      · cases hx
      · cases hx
      · exact .path hp hs hx
  | negative t ih =>
      obtain ⟨y, hy, h⟩ := exists_of_bind_eq_ok heval
      cases h
      exact .negative (ih hy ((Number.isFinite_neg y).symm.trans hx))
  | binary op left right ihl ihr =>
      obtain ⟨y, -, h⟩ := exists_of_bind_eq_ok heval
      obtain ⟨z, -, h⟩ := exists_of_bind_eq_ok h
      rw [isFinite_of_result h] at hx
      cases hx

end Term

/-! ### Calculations -/

/-- The text of a calculation spells an unchecked term. -/
def Unchecked (scope : Scope) (body : List Char) : Prop :=
  ∃ t, Term.parse body = .ok t ∧ t.Unchecked scope

section

variable {scope : Scope} {body : List Char}

theorem unchecked_iff (hscope : scope.IsFinite) :
    Unchecked scope body ↔ ∃ x, run scope body = .ok x ∧ x.isFinite = false := by
  constructor
  · rintro ⟨t, hparse, h⟩
    obtain ⟨x, heval, hx⟩ := h.eval
    refine ⟨x, ?_, hx⟩
    rw [run, hparse]
    exact heval
  · rintro ⟨x, hrun, hx⟩
    obtain ⟨t, hparse, heval⟩ := exists_of_bind_eq_ok hrun
    exact ⟨t, hparse, Term.unchecked_of_eval hscope heval hx⟩

theorem isFinite_run_iff (hscope : scope.IsFinite) {x : Float} (hrun : run scope body = .ok x) :
    x.isFinite = true ↔ ¬ Unchecked scope body := by
  rw [unchecked_iff hscope, hrun, ← Bool.not_eq_false, not_iff_not]
  constructor
  · intro hx
    exact ⟨x, rfl, hx⟩
  · rintro ⟨y, hy, hx⟩
    cases hy
    exact hx

/-- A calculation that fails is worth a finite number. -/
theorem isFinite_value_iff (hscope : scope.IsFinite) :
    (value scope body).isFinite = true ↔ ¬ Unchecked scope body := by
  rw [value]
  cases hrun : run scope body with
  | ok x => exact isFinite_run_iff hscope hrun
  | error fault =>
      have hzero : (0 : Float).isFinite = true := by decide
      refine iff_of_true hzero ?_
      rw [unchecked_iff hscope, hrun]
      rintro ⟨x, hx, -⟩
      cases hx

/-- **Which calculations are finite.**  Over a scope of finite numbers a calculation that has a
result has a finite one unless it is unchecked, and so has an expression that is a calculation. -/
theorem calculation_isFinite_iff (hscope : scope.IsFinite) (body : List Char) :
    (∀ x, run scope body = .ok x → (x.isFinite = true ↔ ¬ Unchecked scope body)) ∧
      ∀ text, Expression.calculation? (trim text) = some body →
        ∃ x, Expression.eval scope text = .number x ∧
          (x.isFinite = true ↔ ¬ Unchecked scope body) := by
  constructor
  · intro x hrun
    exact isFinite_run_iff hscope hrun
  · intro text hbody
    exact ⟨value scope body, Expression.eval_of_calculation hbody scope, isFinite_value_iff hscope⟩

end

/-- One followed by 309 zeros, which is past the largest number. -/
def longLiteral : List Char :=
  '1' :: List.replicate 309 '0'

/-- A calculation that is not finite needs no scope. -/
theorem not_isFinite_longLiteral :
    Scope.empty.IsFinite ∧ run .empty longLiteral = .ok Number.infinity ∧
      Expression.eval .empty (Expression.calcOpening ++ longLiteral ++ [')']) =
        .number Number.infinity ∧
      Number.infinity.isFinite = false := by
  have hrun : run .empty longLiteral = .ok Number.infinity := by decide +kernel
  have hbody : Expression.calculation? (trim (Expression.calcOpening ++ longLiteral ++ [')'])) =
      some longLiteral := by
    decide +kernel
  refine ⟨Scope.isFinite_empty, hrun, ?_, rfl⟩
  rw [Expression.eval_of_calculation hbody, value, hrun]

/-- A text that spells an infinity, a list of one number, and a number. -/
def farScope : Scope :=
  .ofValue (.record [("far", .text " inf "), ("items", .list [.number 1]), ("price", .number 2)])

/-- The price times the number of items. -/
def totalPrice : List Char :=
  ['(', 'p', 'r', 'i', 'c', 'e', '*', 'i', 't', 'e', 'm', 's', '.',
    'l', 'e', 'n', 'g', 't', 'h', ')']

theorem calculation_isFinite_iff_farScope :
    farScope.IsFinite ∧ run farScope totalPrice = .ok 2 ∧ ¬ Unchecked farScope totalPrice ∧
      ∃ x, Expression.eval farScope (Expression.calcOpening ++ ['-', 'f', 'a', 'r', ')']) =
        .number x ∧ x.isFinite = false := by
  have hscope : farScope.IsFinite := by
    have hitems : Value.IsFinite (.list [.number 1]) :=
      .list (by decide) (List.forall_mem_singleton.2 (.number (by decide)))
    refine Scope.isFinite_ofValue (.record (List.forall_mem_cons.2 ⟨.text (by decide), ?_⟩))
    exact List.forall_mem_cons.2 ⟨hitems, List.forall_mem_singleton.2 (.number (by decide))⟩
  have hrun : run farScope totalPrice = .ok 2 := by decide +kernel
  have hfar : Unchecked farScope ['-', 'f', 'a', 'r'] := by
    refine ⟨.negative (.path "far"), by with_unfolding_all rfl, .negative ?_⟩
    exact .path (s := " inf ") (x := Number.infinity) (by with_unfolding_all rfl) (by decide) rfl
  refine ⟨hscope, hrun, ?_, ?_⟩
  · exact ((calculation_isFinite_iff hscope totalPrice).1 2 hrun).1 (by decide)
  · obtain ⟨x, hx, hfinite⟩ := (calculation_isFinite_iff hscope ['-', 'f', 'a', 'r']).2
      (Expression.calcOpening ++ ['-', 'f', 'a', 'r', ')']) (by decide)
    exact ⟨x, hx, Bool.eq_false_iff.2 fun h => hfinite.1 h hfar⟩

end ViewTree.Calc
