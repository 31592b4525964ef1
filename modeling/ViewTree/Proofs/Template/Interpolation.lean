import ViewTree.Proofs.Template.Pieces

/-!
# Template — texts put together

A template has three kinds of value: that of its one expression, the text itself where there are no
expressions, and a text that is spliced together.  All three are displayed as the pieces are, one
after the other (`display_fillText`).  So two texts that are put together are displayed as the one
and then the other, unless the first ends in a literal that an opening stands in or begins at the
end of: there the second text could close what the first has opened.

* `spliced_clear_append`: a literal in front of a text moves none of its expressions.
* `spliced_append`: neither does a text whose last literal is clear of the opening.
* `display_fillText_append`: the displayed values of texts that are put together.
-/

namespace ViewTree.Template

open Text

variable {s before e rest : List Char} {scope : Scope}

/-! ### Displayed values -/

/-- The pieces of a text, spliced together. -/
def spliced (scope : Scope) (s : List Char) : List Char :=
  (parse s).flatMap (Piece.splice scope)

theorem flatMap_splice_literals (scope : Scope) (s : List Char) :
    (literals s).flatMap (Piece.splice scope) = s := by
  cases s <;> simp [literals, Piece.splice]

theorem spliced_of_not_encloses (scope : Scope) (h : ¬ Encloses s) : spliced scope s = s := by
  rw [spliced, parse_of_not_encloses h, flatMap_splice_literals]

theorem spliced_append_expression (hbefore : Clear '\x7b' before) (he : Clear '\x7d' e)
    (scope : Scope) (rest : List Char) :
    spliced scope (before ++ ((Piece.expression e).written ++ rest)) =
      before ++ ((Piece.expression e).splice scope ++ spliced scope rest) := by
  rw [spliced, parse_append_expression hbefore he, List.flatMap_append, flatMap_splice_literals]
  rfl

/-- Every value of a template is displayed as its pieces are. -/
theorem display_fillText (scope : Scope) (s : String) :
    (fillText scope s).display = String.ofList (spliced scope s.toList) := by
  rw [fillText]
  split
  · next e hparse =>
      simp [spliced, hparse, Piece.splice]
  · split
    · rfl
    · next hnone =>
        have hplain : ¬ Encloses s.toList := by
          rw [← hasExpressions_iff, hasExpressions]
          exact hnone
        rw [spliced_of_not_encloses scope hplain, String.ofList_toList]
        rfl

/-! ### Texts put together -/

theorem encloses_append_iff (hs : Clear '\x7b' s) (t : List Char) :
    Encloses (s ++ t) ↔ Encloses t := by
  rw [encloses_iff, encloses_iff, opening, cut_pair_append hs]
  constructor
  · rintro ⟨before, after, hcut, hclose⟩
    obtain ⟨⟨front, after⟩, hfound, heq⟩ := Option.map_eq_some_iff.1 hcut
    cases heq
    exact ⟨front, after, hfound, hclose⟩
  · rintro ⟨before, after, hcut, hclose⟩
    exact ⟨s ++ before, after, by rw [hcut]; rfl, hclose⟩

/-- A literal in front of a text is spliced in front of what the text gives. -/
theorem spliced_clear_append (hs : Clear '\x7b' s) (scope : Scope) (t : List Char) :
    spliced scope (s ++ t) = s ++ spliced scope t := by
  induction t using parse_induction with
  | plain t h =>
      have happend : ¬ Encloses (s ++ t) := by rwa [encloses_append_iff hs]
      rw [spliced_of_not_encloses scope happend, spliced_of_not_encloses scope h]
  | expression before e rest hbefore he _ =>
      rw [← List.append_assoc, spliced_append_expression (hs.append hbefore) he,
        spliced_append_expression hbefore he, List.append_assoc]

/-- The pieces of a text are spliced in front of what the text behind it gives. -/
theorem spliced_append (scope : Scope)
    (h : ∀ text, (parse s).getLast? = some (.literal text) → Clear '\x7b' text) (t : List Char) :
    spliced scope (s ++ t) = spliced scope s ++ spliced scope t := by
  induction s using parse_induction with
  | plain s hplain =>
      cases hs : s with
      | nil => simp [spliced_of_not_encloses scope not_encloses_nil]
      | cons c front =>
          have hparse : parse s = [.literal s] := by
            rw [parse_of_not_encloses hplain, literals_of_ne_nil (hs ▸ List.cons_ne_nil c front)]
          have hclear : Clear '\x7b' s := h s (by rw [hparse]; rfl)
          rw [← hs, spliced_clear_append hclear, spliced_of_not_encloses scope hplain]
  | expression before e rest hbefore he ih =>
      have hrest : ∀ text, (parse rest).getLast? = some (.literal text) → Clear '\x7b' text := by
        intro text hlast
        refine h text ?_
        rw [parse_append_expression hbefore he]
        simp [List.getLast?_append, List.getLast?_cons, hlast]
      simp only [List.append_assoc, spliced_append_expression hbefore he, ih hrest]

/-- **Texts put together are displayed one after the other.**  This holds whichever of the three
kinds of value each of them has, when the first does not end in a literal that holds an opening or
ends in half of one. -/
theorem display_fillText_append (scope : Scope) {s : String}
    (h : ∀ text, (parse s.toList).getLast? = some (.literal text) → Clear '\x7b' text)
    (t : String) :
    (fillText scope (s ++ t)).display =
      (fillText scope s).display ++ (fillText scope t).display := by
  simp only [display_fillText, String.toList_append, spliced_append scope h, String.ofList_append]

/-- A flag that is set. -/
def flagScope : Scope :=
  Scope.empty.bind "flag" (.bool true)

/-- The flag, and a single brace behind it. -/
def flagAndBrace : String :=
  "\x7b\x7bflag\x7d\x7d\x7b "

/-- The flag alone. -/
def flagAlone : String :=
  "\x7b\x7bflag\x7d\x7d"

theorem display_fillText_append_flags :
    (∀ text, (parse flagAndBrace.toList).getLast? = some (.literal text) → Clear '\x7b' text) ∧
      (fillText flagScope flagAlone).typeWord = "bool" ∧
      (fillText flagScope (flagAndBrace ++ flagAlone)).display = "true\x7b true" := by
  have hlast : (parse flagAndBrace.toList).getLast? = some (.literal ['\x7b', ' ']) := by
    decide +kernel
  have hclear : ∀ text, (parse flagAndBrace.toList).getLast? = some (.literal text) →
      Clear '\x7b' text := by
    intro text h
    rw [hlast] at h
    cases h
    exact ⟨by decide, by decide⟩
  have hfirst : (fillText flagScope flagAndBrace).display = "true\x7b " := by decide +kernel
  have hsecond : (fillText flagScope flagAlone).display = "true" := by decide +kernel
  refine ⟨hclear, by decide +kernel, ?_⟩
  rw [display_fillText_append flagScope hclear flagAlone, hfirst, hsecond]
  rfl

end ViewTree.Template
