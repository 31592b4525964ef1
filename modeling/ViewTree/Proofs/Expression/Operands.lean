import ViewTree.Expression
import ViewTree.Proofs.Calc.Paths
import ViewTree.Proofs.Scope.Agreement

/-!
# Expression — operands are parts of the text

Whatever an expression is taken apart into stands in its text: the body of a calculation, the two
sides of a comparison, every operand of a chain.  So scopes that agree on the text of an expression
give it the same value (`eval_congr`).

* `append_of_splitFrom`: a comparison loses nothing but its operator.
* `isInfix_of_mem_operands`: the operands of a chain are parts of the text.
-/

namespace ViewTree.Expression

open Text

/-! ### Parts of a text -/

/-- What stands in a calculation stands in its text. -/
theorem isInfix_of_calculation? {s body : List Char} (h : calculation? s = some body) :
    body <:+: s := by
  rw [calculation?] at h
  split at h
  · simp only at h
    split at h
    · cases h
      exact (List.dropLast_prefix _).isInfix.trans (List.drop_suffix _ s).isInfix
    · cases h
  · cases h

/-- The operator of a comparison. -/
def symbol (negated : Bool) : List Char :=
  if negated then ['!', '=', '='] else ['=', '=', '=']

theorem append_of_operator {s rest : List Char} {negated : Bool}
    (h : operator? s = some (negated, rest)) : symbol negated ++ rest = s := by
  unfold operator? at h
  split at h
  · cases h; rfl
  · cases h; rfl
  · cases h

/-- A comparison loses nothing but its operator. -/
theorem append_of_splitFrom {quote : Option Char} {s : List Char} {found : Comparison}
    (h : splitFrom quote s = some found) :
    found.left ++ (symbol found.negated ++ found.right) = s := by
  induction s generalizing quote found with
  | nil => cases h
  | cons c s ih =>
      rw [splitFrom] at h
      split at h
      · next negated rest hop =>
          cases h
          cases quote with
          | none => exact append_of_operator hop
          | some q => cases hop
      · obtain ⟨inner, hinner, rfl⟩ := Option.map_eq_some_iff.1 h
        exact congrArg (c :: ·) (ih hinner)

/-- The operands of a chain. -/
def Chain.operands (chain : Chain) : List (List Char) :=
  chain.links.map (·.1) ++ [chain.last]

/-- The operands of a chain are parts of the text. -/
theorem isInfix_of_mem_operands {s part : List Char} (h : part ∈ (Chain.split s).operands) :
    part <:+: s := by
  fun_induction Chain.split s with
  | case1 s found hfound _ chain ih =>
      have happend := append_of_splitFrom hfound
      rcases List.mem_cons.1 h with rfl | h
      · have hleft : found.left <+: s := ⟨_, happend⟩
        exact hleft.isInfix
      -- the other operands stand after the operator
      · have hright : found.right <:+ s :=
          ⟨found.left ++ symbol found.negated, by rw [List.append_assoc]; exact happend⟩
        exact (ih h).trans hright.isInfix
  | case2 s _ =>
      cases List.mem_singleton.1 h
      exact List.infix_rfl

/-! ### Evaluation -/

section Agreement

variable {s t : Scope} {text : List Char}

theorem calcValue_congr (h : s.AgreeOn t text) : Calc.value s text = Calc.value t text :=
  Calc.value_congr fun _ hp => (h.mono hp).lookup_eq

theorem operand_congr (h : s.AgreeOn t text) : operand s text = operand t text := by
  rw [operand, operand]
  cases hc : calculation? text with
  | some body => exact congrArg Value.number (calcValue_congr (h.mono (isInfix_of_calculation? hc)))
  | none => simp only [h.lookup_eq]

theorem Chain.value_cons (scope : Scope) (left : List Char) (negated : Bool)
    (links : List (List Char × Bool)) (last : List Char) :
    Chain.value scope ⟨(left, negated) :: links, last⟩ =
      .bool ((operand scope (trim left) == Chain.value scope ⟨links, last⟩) != negated) := rfl

/-- A chain reads nothing of a scope but what its operands read. -/
theorem Chain.value_congr {chain : Chain} (h : ∀ part ∈ chain.operands, s.AgreeOn t part) :
    chain.value s = chain.value t := by
  obtain ⟨links, last⟩ := chain
  induction links with
  | nil =>
      have hlast : s.AgreeOn t last := h last (.head _)
      exact operand_congr (hlast.mono (isInfix_trim last))
  | cons link links ih =>
      obtain ⟨left, negated⟩ := link
      have hleft : s.AgreeOn t left := h left (.head _)
      rw [value_cons, value_cons, operand_congr (hleft.mono (isInfix_trim left)),
        ih fun part hp => h part (.tail _ hp)]

/-- **Scopes that agree on an expression give it the same value.** -/
theorem eval_congr (h : s.AgreeOn t text) : eval s text = eval t text := by
  have ht : s.AgreeOn t (trim text) := h.mono (isInfix_trim text)
  rw [eval, eval]
  cases hc : calculation? (trim text) with
  | some body =>
      exact congrArg Value.number (calcValue_congr (ht.mono (isInfix_of_calculation? hc)))
  | none => exact Chain.value_congr fun part hp => ht.mono (isInfix_of_mem_operands hp)

end Agreement

end ViewTree.Expression
