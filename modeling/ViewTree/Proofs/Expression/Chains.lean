import ViewTree.Proofs.Expression.Comparisons

/-!
# Expression — operands joined to a chain

Operands that are written one after the other with ` === ` and ` !== ` between them make a chain
that is split exactly where they were joined, so the value of the chain is the right fold of the
values that the operands have by themselves.  An operand may hold quotes, operators inside of
quotes, single signs of equality and blanks: what it may not do is to leave a quote open or to
show an operator outside of quotes (`IsOperand`).

* `splitFrom_append`: a scan that meets no operator in a text goes on behind it.
* `isOperand_iff`: what the scan says of an operand.
* `split?_joined`, `Chain.value_split_joined`: the first join, and all of them.
* `eval_joined`: the value of operands joined to a chain.
-/

namespace ViewTree.Expression

open Text

/-! ### Operands -/

/-- A text that a chain keeps whole. -/
structure IsOperand (s : List Char) : Prop where
  /-- No quote is open at its end. -/
  closed : s.foldl quoteAfter none = none
  /-- No operator starts where no quote is open. -/
  whole : ∀ before after, s = before ++ after → before.foldl quoteAfter none = none →
    operator? after = none

theorem splitFrom_cons_of_none {quote : Option Char} {c : Char} {s : List Char}
    (h : quote = none → operator? (c :: s) = none) :
    splitFrom quote (c :: s) =
      (splitFrom (quoteAfter quote c) s).map
        fun found => { found with left := c :: found.left } := by
  cases quote with
  | none => rw [splitFrom, h rfl]; rfl
  | some q => rw [splitFrom]; rfl

/-- A scan that meets no operator in a text goes on behind it, with the quote that is open
there. -/
theorem splitFrom_append {s t : List Char} {quote : Option Char}
    (h : ∀ before after, s = before ++ after → after ≠ [] →
      before.foldl quoteAfter quote = none → operator? (after ++ t) = none) :
    splitFrom quote (s ++ t) =
      (splitFrom (s.foldl quoteAfter quote) t).map
        fun found => { found with left := s ++ found.left } := by
  induction s generalizing quote with
  | nil => exact Option.map_id_fun'.symm ▸ rfl
  | cons c s ih =>
      have hhere : quote = none → operator? (c :: (s ++ t)) = none :=
        h [] (c :: s) rfl (List.cons_ne_nil c s)
      have hlater := ih fun before after hs =>
        h (c :: before) after (congrArg (c :: ·) hs)
      rw [List.cons_append, splitFrom_cons_of_none hhere, hlater, Option.map_map]
      rfl

/-- An operator that does not start a text does not start it before a blank either. -/
theorem operator?_append_blank_cons {s : List Char} (h : operator? s = none) {c : Char}
    (hc : isBlank c = true) (t : List Char) : operator? (s ++ c :: t) = none := by
  cases hs : operator? (s ++ c :: t) with
  | none => rfl
  | some found =>
      obtain ⟨negated, rest⟩ := found
      rcases List.append_eq_append_iff.1 (operator?_eq_some_iff.1 hs) with
        ⟨cut, hsymbol, hrest⟩ | ⟨cut, hs', -⟩
      · cases cut with
        | nil =>
            rw [List.append_nil] at hsymbol
            rw [operator?_eq_some_iff.2 (hsymbol.symm.trans (List.append_nil _).symm)] at h
            cases h
        | cons d cut =>
            -- the operator would hold the blank
            cases hrest
            have hmem : c ∈ symbol negated := hsymbol ▸ List.mem_append_right _ (.head _)
            rw [isBlank_of_mem_symbol hmem] at hc
            cases hc
      · rw [operator?_eq_some_iff.2 hs'] at h
        cases h

/-- A scan that finds nothing meets no operator where no quote is open. -/
theorem operator?_of_splitFrom_eq_none {before after : List Char} {quote : Option Char}
    (h : splitFrom quote (before ++ after) = none) (hquote : before.foldl quoteAfter quote = none) :
    operator? after = none := by
  induction before generalizing quote with
  | nil =>
      cases hquote
      cases after with
      | nil => rfl
      | cons c s =>
          rw [List.nil_append, splitFrom] at h
          split at h
          · cases h
          · next hop => exact hop
  | cons c before ih =>
      rw [List.cons_append, splitFrom] at h
      split at h
      · cases h
      · exact ih (Option.map_eq_none_iff.1 h) hquote

/-- The scan ends outside of quotes and finds nothing. -/
theorem isOperand_iff {s : List Char} :
    IsOperand s ↔ s.foldl quoteAfter none = none ∧ split? s = none := by
  constructor
  · rintro ⟨hclosed, hwhole⟩
    have hsplit : splitFrom none (s ++ []) = none := by
      rw [splitFrom_append fun before after hs _ hquote => ?_]
      · rfl
      · rw [List.append_nil]
        exact hwhole before after hs hquote
    exact ⟨hclosed, by rwa [List.append_nil] at hsplit⟩
  · rintro ⟨hclosed, hsplit⟩
    refine ⟨hclosed, fun before after hs hquote => ?_⟩
    subst hs
    exact operator?_of_splitFrom_eq_none hsplit hquote

/-! ### Operands joined to a chain -/

/-- Operands with operators between them, each with a space on either side. -/
def joined : List Char → List (Bool × List Char) → List Char
  | first, [] => first
  | first, (negated, next) :: links => first ++ ' ' :: (symbol negated ++ ' ' :: joined next links)

/-- The values of operands compared from the right, each with what is to the right of it. -/
def compared (scope : Scope) : List Char → List (Bool × List Char) → Value
  | first, [] => eval scope first
  | first, (negated, next) :: links =>
    .bool ((eval scope first == compared scope next links) != negated)

/-- An operator stands at the front of a text that starts with one. -/
theorem split?_symbol (negated : Bool) (rest : List Char) :
    split? (symbol negated ++ rest) = some ⟨[], negated, rest⟩ := by
  cases negated <;> rfl

/-- The first join is where the chain is split. -/
theorem split?_joined {first : List Char} (h : IsOperand first) (negated : Bool)
    (next : List Char) (links : List (Bool × List Char)) :
    split? (joined first ((negated, next) :: links)) =
      some ⟨first ++ [' '], negated, ' ' :: joined next links⟩ := by
  have hspace : isBlank ' ' = true := rfl
  have hsplit := split?_append_left (List.forall_mem_singleton.2 hspace)
    (symbol negated ++ ' ' :: joined next links)
  rw [split?_symbol, List.singleton_append] at hsplit
  rw [joined, split?, splitFrom_append fun before after hs _ hquote =>
    operator?_append_blank_cons (h.whole before after hs hquote) hspace _, h.closed, ← split?,
    hsplit]
  rfl

/-- **The chain of joined operands.**  Its value is the right fold of their own values. -/
theorem Chain.value_split_joined {first : List Char} {links : List (Bool × List Char)}
    (h : ∀ operand ∈ first :: links.map Prod.snd, IsOperand operand) (scope : Scope) :
    (Chain.split (joined first links)).value scope = compared scope first links := by
  have hblank : ∀ c ∈ [' '], isBlank c = true := List.forall_mem_singleton.2 rfl
  induction links generalizing first with
  | nil =>
      have hsplit : split? first = none := (isOperand_iff.1 (h first (.head _))).2
      rw [joined, value_split_of_none hsplit, ← eval_of_split?_eq_none hsplit, compared]
  | cons link links ih =>
      obtain ⟨negated, next⟩ := link
      obtain ⟨hfirst, hothers⟩ := List.forall_mem_cons.1 h
      have hsplit := split?_joined hfirst negated next links
      have hleft : operand scope (trim (first ++ [' '])) = eval scope first := by
        rw [trim_append_right hblank, eval_of_split?_eq_none (isOperand_iff.1 hfirst).2]
      have hright : (Chain.split (' ' :: joined next links)).value scope =
          compared scope next links :=
        (value_split_append_left hblank (joined next links) scope).trans (ih hothers)
      rw [value_split_of_some hsplit, hleft, hright, compared]

/-- **Joined operands are compared from the right.**  Operands joined with ` === ` and ` !== ` to a
text that is no calculation are compared one by one from the right, each by the value that it has
by itself. -/
theorem eval_joined {first : List Char} {links : List (Bool × List Char)}
    (h : ∀ operand ∈ first :: links.map Prod.snd, IsOperand operand)
    (hcalc : calculation? (trim (joined first links)) = none) (scope : Scope) :
    eval scope (joined first links) = compared scope first links :=
  (eval_of_not_calculation hcalc scope).trans (Chain.value_split_joined h scope)

/-- A text with an operator and the other quote in it. -/
def quotedOperand : List Char :=
  [' ', '\'', '=', '=', '=', '"', '\'']

/-- Another such text, a calculation, and a text with single signs of the operators. -/
def quotedLinks : List (Bool × List Char) :=
  [(true, ['"', '!', '=', '=', '\'', '"']),
    (false, ['c', 'a', 'l', 'c', '(', '2', ' ', '-', ' ', '1', ')']),
    (false, ['=', '=', '!', ' ', '!', '='])]

theorem eval_joined_quotedLinks :
    (∀ operand ∈ quotedOperand :: quotedLinks.map Prod.snd, IsOperand operand) ∧
      calculation? (trim (joined quotedOperand quotedLinks)) = none ∧
      eval .empty (joined quotedOperand quotedLinks) = .bool true := by
  have hoperands : ∀ operand ∈ quotedOperand :: quotedLinks.map Prod.snd, IsOperand operand := by
    simp only [quotedLinks, List.map_cons, List.map_nil, List.forall_mem_cons, isOperand_iff]
    exact ⟨⟨rfl, rfl⟩, ⟨rfl, rfl⟩, ⟨rfl, rfl⟩, ⟨rfl, rfl⟩, nofun⟩
  have hcalc : calculation? (trim (joined quotedOperand quotedLinks)) = none := by decide
  refine ⟨hoperands, hcalc, (eval_joined hoperands hcalc .empty).trans ?_⟩
  exact congrArg Value.bool (by decide +kernel)

end ViewTree.Expression
