import Mathlib.Data.List.Basic
import Mathlib.Data.List.TakeWhile
import ViewTree.Proofs.Expression.Operands
import ViewTree.Proofs.Text.Blanks

/-!
# Expression — what a comparison compares

A comparison splits a text at the first operator outside quotes, and the chain goes on splitting
what stands to the right of it.  Blanks around a text change neither the chain nor its value, and
nothing is left to split on the left, so the left side always has the value that it has by itself
(`eval_left_of_split?`).

The right side has too, unless it is a calculation with a comparison between its parentheses
(`HidesComparison`).  By itself it then is a calculation without tokens, hence 0, while the chain
splits it all the same.

* `Chain.value_split_trim`: blanks around a text do not count.
* `Chain.value_split_eq_eval`, `eval_of_hidesComparison`: the right side in the two cases.
* `eval_comparison`: the value of a comparison, and when it is that of its two sides.
-/

namespace ViewTree.Expression

open Text

/-! ### Splitting at an operator -/

theorem operator?_eq_some_iff {s rest : List Char} {negated : Bool} :
    operator? s = some (negated, rest) ↔ s = symbol negated ++ rest := by
  constructor
  · exact fun h => (append_of_operator h).symm
  · rintro rfl
    cases negated <;> rfl

theorem operator?_eq_none_of_append {s t : List Char} (h : operator? (s ++ t) = none) :
    operator? s = none := by
  cases hs : operator? s with
  | none => rfl
  | some found =>
      obtain ⟨negated, rest⟩ := found
      have hlonger : operator? (s ++ t) = some (negated, rest ++ t) := by
        rw [operator?_eq_some_iff, operator?_eq_some_iff.1 hs, List.append_assoc]
      rw [h] at hlonger
      cases hlonger

theorem isBlank_of_mem_symbol {negated : Bool} {c : Char} (h : c ∈ symbol negated) :
    isBlank c = false := by
  have hall : ((symbol negated).all fun d => !isBlank d) = true := by cases negated <;> decide
  simpa using List.all_eq_true.1 hall c h

/-- Blanks at the end complete no operator. -/
theorem operator?_append_blank {after : List Char} (h : ∀ c ∈ after, isBlank c = true)
    (s : List Char) :
    operator? (s ++ after) = (operator? s).map fun found => (found.1, found.2 ++ after) := by
  cases hs : operator? (s ++ after) with
  | none => rw [operator?_eq_none_of_append hs]; rfl
  | some found =>
      obtain ⟨negated, rest⟩ := found
      rcases List.append_eq_append_iff.1 (operator?_eq_some_iff.1 hs) with
        ⟨cut, hsymbol, hafter⟩ | ⟨cut, hs', hrest⟩
      -- the operator would end in the blanks
      · cases cut with
        | nil =>
            rw [List.append_nil] at hsymbol
            have hop : operator? s = some (negated, []) := by
              rw [operator?_eq_some_iff, hsymbol, List.append_nil]
            rw [hop, hafter]
            rfl
        | cons c cut =>
            have hblank : isBlank c = true := h c (hafter ▸ List.mem_cons_self)
            have hmem : c ∈ symbol negated := hsymbol ▸ List.mem_append_right _ (.head _)
            rw [isBlank_of_mem_symbol hmem] at hblank
            cases hblank
      · rw [operator?_eq_some_iff.2 hs', hrest]
        rfl

theorem operator?_of_blank {c : Char} (h : isBlank c = true) (s : List Char) :
    operator? (c :: s) = none := by
  unfold operator?
  split
  · next heq => cases heq; cases h
  · next heq => cases heq; cases h
  · rfl

theorem splitFrom_of_blank {s : List Char} (h : ∀ c ∈ s, isBlank c = true)
    (quote : Option Char) : splitFrom quote s = none := by
  induction s generalizing quote with
  | nil => rfl
  | cons c s ih =>
      rw [splitFrom, operator?_of_blank (h c (.head _)), ih fun d hd => h d (.tail c hd)]
      cases quote <;> rfl

/-- Blanks at the front go to the left side. -/
theorem split?_append_left {before : List Char} (h : ∀ c ∈ before, isBlank c = true)
    (s : List Char) :
    split? (before ++ s) =
      (split? s).map fun found => { found with left := before ++ found.left } := by
  induction before with
  | nil => exact Option.map_id_fun'.symm ▸ rfl
  | cons c before ih =>
      have hc : isBlank c = true := h c (.head _)
      have hquote : quoteAfter none c = none := by
        rw [quoteAfter, if_neg]
        rintro (rfl | rfl) <;> exact absurd hc (by decide)
      rw [split?] at ih ⊢
      rw [List.cons_append, splitFrom, operator?_of_blank hc, hquote,
        ih fun d hd => h d (.tail c hd)]
      cases split? s <;> rfl

/-- Blanks at the end go to the right side. -/
theorem splitFrom_append_right {after : List Char} (h : ∀ c ∈ after, isBlank c = true)
    (s : List Char) (quote : Option Char) :
    splitFrom quote (s ++ after) =
      (splitFrom quote s).map fun found => { found with right := found.right ++ after } := by
  induction s generalizing quote with
  | nil => rw [List.nil_append, splitFrom_of_blank h]; rfl
  | cons c s ih =>
      have hop := operator?_append_blank h (c :: s)
      rw [List.cons_append] at hop ⊢
      rw [splitFrom, splitFrom, hop, ih]
      cases quote with
      | some q => cases splitFrom (quoteAfter (some q) c) s <;> rfl
      | none =>
          cases operator? (c :: s) with
          | some found => rfl
          | none => cases splitFrom (quoteAfter none c) s <;> rfl

/-- Nothing is left to split on the left of the first operator. -/
theorem splitFrom_left {quote : Option Char} {s : List Char} {found : Comparison}
    (h : splitFrom quote s = some found) : splitFrom quote found.left = none := by
  induction s generalizing quote found with
  | nil => cases h
  | cons c s ih =>
      have happend := append_of_splitFrom h
      rw [splitFrom] at h
      split at h
      · cases h; rfl
      · next hop =>
          obtain ⟨inner, hinner, rfl⟩ := Option.map_eq_some_iff.1 h
          rw [splitFrom, ih hinner]
          cases quote with
          | some q => rfl
          | none =>
              rw [← happend] at hop
              rw [operator?_eq_none_of_append hop]
              rfl

/-! ### The value of a chain -/

theorem Chain.split_of_some {s : List Char} {found : Comparison} (h : split? s = some found) :
    Chain.split s =
      ⟨(found.left, found.negated) :: (Chain.split found.right).links,
        (Chain.split found.right).last⟩ := by
  rw [Chain.split]
  split
  · next other hother => cases h.symm.trans hother; rfl
  · next hnone => cases h.symm.trans hnone

theorem Chain.split_of_none {s : List Char} (h : split? s = none) : Chain.split s = ⟨[], s⟩ := by
  rw [Chain.split]
  split
  · next found hfound => cases h.symm.trans hfound
  · rfl

/-- The value of a text that splits: the left operand against the chain on the right. -/
theorem Chain.value_split_of_some {s : List Char} {found : Comparison} (h : split? s = some found)
    (scope : Scope) :
    (Chain.split s).value scope =
      .bool ((operand scope (trim found.left) == (Chain.split found.right).value scope) !=
        found.negated) := by
  rw [split_of_some h]
  rfl

theorem Chain.value_split_of_none {s : List Char} (h : split? s = none) (scope : Scope) :
    (Chain.split s).value scope = operand scope (trim s) := by
  rw [split_of_none h]
  rfl

theorem Chain.value_split_append_left {before : List Char} (h : ∀ c ∈ before, isBlank c = true)
    (s : List Char) (scope : Scope) :
    (Chain.split (before ++ s)).value scope = (Chain.split s).value scope := by
  have hsplit := split?_append_left h s
  cases hs : split? s with
  | none =>
      rw [hs] at hsplit
      rw [value_split_of_none hsplit, value_split_of_none hs, trim_append_left h]
  | some found =>
      rw [hs] at hsplit
      rw [value_split_of_some hsplit, value_split_of_some hs, trim_append_left h]

theorem Chain.value_split_append_right {after : List Char} (h : ∀ c ∈ after, isBlank c = true)
    (s : List Char) (scope : Scope) :
    (Chain.split (s ++ after)).value scope = (Chain.split s).value scope := by
  -- along the chain: the blanks stay at the end of what is still to be split
  fun_induction Chain.split s with
  | case1 s found hfound _ chain ih =>
      have hsplit : split? (s ++ after) = some { found with right := found.right ++ after } := by
        rw [split?, splitFrom_append_right h, ← split?, hfound]
        rfl
      rw [value_split_of_some hsplit, ih]
      rfl
  | case2 s hnone =>
      have hsplit : split? (s ++ after) = none := by
        rw [split?, splitFrom_append_right h, ← split?, hnone]
        rfl
      rw [value_split_of_none hsplit, trim_append_right h]
      rfl

/-- Blanks around a text do not count. -/
theorem Chain.value_split_trim (s : List Char) (scope : Scope) :
    (Chain.split (trim s)).value scope = (Chain.split s).value scope := by
  obtain ⟨before, after, hs, hbefore, hafter⟩ := exists_eq_append_trim s
  calc (Chain.split (trim s)).value scope
      = (Chain.split (trim s ++ after)).value scope :=
        (value_split_append_right hafter _ scope).symm
    _ = (Chain.split (before ++ (trim s ++ after))).value scope :=
        (value_split_append_left hbefore _ scope).symm
    _ = (Chain.split s).value scope := by rw [← hs]

/-! ### The two sides -/

theorem eval_of_calculation {s body : List Char} (h : calculation? (trim s) = some body)
    (scope : Scope) : eval scope s = .number (Calc.value scope body) := by
  rw [eval, h]

theorem eval_of_not_calculation {s : List Char} (h : calculation? (trim s) = none)
    (scope : Scope) : eval scope s = (Chain.split s).value scope := by
  rw [eval, h]
  exact Chain.value_split_trim s scope

/-- A text without a comparison is an operand. -/
theorem eval_of_split?_eq_none {s : List Char} (h : split? s = none) (scope : Scope) :
    eval scope s = operand scope (trim s) := by
  cases hc : calculation? (trim s) with
  | some body => rw [eval_of_calculation hc, operand, hc]
  | none => rw [eval_of_not_calculation hc, Chain.value_split_of_none h]

/-- The left side of a comparison has the value that it has by itself. -/
theorem eval_left_of_split? {s : List Char} {found : Comparison} (h : split? s = some found)
    (scope : Scope) : operand scope (trim found.left) = eval scope found.left :=
  (eval_of_split?_eq_none (splitFrom_left h) scope).symm

/-- A text is a calculation with a comparison in it. -/
structure HidesComparison (s : List Char) : Prop where
  isCalculation : (calculation? (trim s)).isSome
  splits : (split? s).isSome

/-- A text that hides no comparison has the value of its chain. -/
theorem Chain.value_split_eq_eval {s : List Char} (h : ¬ HidesComparison s) (scope : Scope) :
    (Chain.split s).value scope = eval scope s := by
  cases hc : calculation? (trim s) with
  | none => exact (eval_of_not_calculation hc scope).symm
  | some body =>
      have hs : split? s = none := by
        by_contra hne
        exact h ⟨hc ▸ rfl, Option.isSome_iff_ne_none.2 hne⟩
      rw [eval_of_split?_eq_none hs, value_split_of_none hs]

theorem append_of_calculation? {s body : List Char} (h : calculation? s = some body) :
    calcOpening ++ (body ++ [')']) = s := by
  rw [calculation?] at h
  split at h
  · next hopen =>
      simp only at h
      split at h
      · next hclose =>
          cases h
          obtain ⟨inner, rfl⟩ := List.isPrefixOf_iff_prefix.1 hopen
          rw [List.drop_left] at hclose ⊢
          rw [List.dropLast_append_getLast? _ hclose.1]
      · cases h
  · cases h

/-- A calculation with a comparison in it has no tokens and is 0. -/
theorem eval_of_hidesComparison {s : List Char} (h : HidesComparison s) (scope : Scope) :
    eval scope s = .number 0 := by
  obtain ⟨body, hc⟩ := Option.isSome_iff_exists.1 h.isCalculation
  obtain ⟨found, hs⟩ := Option.isSome_iff_exists.1 h.splits
  have hsign : '=' ∈ s := by
    rw [← append_of_splitFrom hs]
    cases found.negated <;> simp [symbol]
  -- the sign is neither a blank around the calculation nor part of its brackets
  obtain ⟨before, after, heq, hbefore, hafter⟩ := exists_eq_append_trim s
  have hbody : '=' ∈ body := by
    have hblank : ∀ part : List Char, (∀ c ∈ part, isBlank c = true) → '=' ∉ part :=
      fun part hpart hm => absurd (hpart '=' hm) (by decide)
    rw [heq, ← append_of_calculation? hc] at hsign
    simpa [hblank before hbefore, hblank after hafter, calcOpening] using hsign
  rw [eval_of_calculation hc, Calc.value_of_not_accepts hbody (by decide)]

/-! ### The value of a comparison -/

/-- No value equals both a number and a truth value. -/
theorem beq_bool_of_beq_number {v : Value} {x : Float} (h : (v == .number x) = true) (b : Bool) :
    (v == .bool b) = false := by
  cases v with
  | number y => rfl
  | _ => cases h

/-- **What a comparison compares.**  Its value is that of the left side compared with the chain on
the right.  It is that of the two sides, each evaluated by itself, unless the right side hides a
comparison, and even then if the left side is neither 0 nor the truth value of the chain. -/
theorem eval_comparison {text : List Char} {found : Comparison}
    (hcalc : calculation? (trim text) = none) (hfound : split? (trim text) = some found)
    (scope : Scope) :
    eval scope text =
        .bool ((eval scope found.left == (Chain.split found.right).value scope) !=
          found.negated) ∧
      (eval scope text =
          .bool ((eval scope found.left == eval scope found.right) != found.negated) ↔
        (HidesComparison found.right →
          (eval scope found.left == .number 0) = false ∧
            (eval scope found.left == (Chain.split found.right).value scope) = false)) := by
  have hvalue : eval scope text =
      .bool ((eval scope found.left == (Chain.split found.right).value scope) !=
        found.negated) := by
    rw [eval, hcalc, ← eval_left_of_split? hfound]
    exact Chain.value_split_of_some hfound scope
  refine ⟨hvalue, ?_⟩
  rw [hvalue, Value.bool.injEq, Bool.bne_left_inj]
  by_cases hhides : HidesComparison found.right
  · rw [eval_of_hidesComparison hhides]
    obtain ⟨inner, hinner⟩ := Option.isSome_iff_exists.1 hhides.splits
    obtain ⟨b, hb⟩ : ∃ b, (Chain.split found.right).value scope = .bool b :=
      ⟨_, Chain.value_split_of_some hinner scope⟩
    rw [hb]
    cases hzero : eval scope found.left == .number 0 with
    | true => simp [beq_bool_of_beq_number hzero, hhides]
    | false => simp [hhides]
  · rw [Chain.value_split_eq_eval hhides]
    exact iff_of_true rfl fun h => absurd h hhides

/-- A comparison of 0 with a calculation that hides one. -/
def hiddenComparison : List Char :=
  ['0', ' ', '=', '=', '=', ' ', 'c', 'a', 'l', 'c', '(', '1', ' ', '=', '=', '=', ' ', '1', ')']

/-- Both sides of `hiddenComparison` are 0 and its value is false. -/
theorem not_eval_comparison_of_sides :
    ¬ ∀ (text : List Char) (found : Comparison) (scope : Scope),
      calculation? (trim text) = none → split? (trim text) = some found →
        eval scope text =
          .bool ((eval scope found.left == eval scope found.right) != found.negated) := by
  intro h
  have hsides := h hiddenComparison ⟨hiddenComparison.take 2, false, hiddenComparison.drop 5⟩
    .empty (by decide) rfl
  have hequal : (eval .empty (hiddenComparison.take 2) ==
      eval .empty (hiddenComparison.drop 5)) = true := by decide +kernel
  have hfalse : (eval .empty hiddenComparison == .bool true) = false := by decide +kernel
  rw [hsides, hequal] at hfalse
  cases hfalse

/-- What stands to the right of the first operator of `quotedChain`. -/
def quotedRight : List Char :=
  ['1', ' ', '!', '=', '=', '\'', '=', '=', '=', '\'']

/-- A chain of three operands, the last of them an operator in quotes. -/
def quotedChain : List Char :=
  [' ', 'x', '=', '=', '='] ++ quotedRight ++ [' ']

theorem eval_comparison_quotedChain :
    calculation? (trim quotedChain) = none ∧
      split? (trim quotedChain) = some ⟨['x'], false, quotedRight⟩ ∧
      ¬ HidesComparison quotedRight ∧
      eval (Scope.empty.bind "x" (.bool true)) quotedChain = .bool true := by
  let scope := Scope.empty.bind "x" (.bool true)
  have hcalc : calculation? (trim quotedChain) = none := by decide
  have hsplit : split? (trim quotedChain) = some ⟨['x'], false, quotedRight⟩ := rfl
  have hshown : ¬ HidesComparison quotedRight := fun h => absurd h.isCalculation (by decide)
  have hequal : (eval scope ['x'] == eval scope quotedRight) = true := by decide +kernel
  have hsides := (eval_comparison hcalc hsplit scope).2.2 fun h => absurd h hshown
  refine ⟨hcalc, hsplit, hshown, ?_⟩
  rw [hsides, hequal]
  rfl

end ViewTree.Expression
