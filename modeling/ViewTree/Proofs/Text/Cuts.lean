import Mathlib.Data.List.Infix
import ViewTree.Text.Cut

/-!
# Text — where a text is cut

`cut` finds the first occurrence of its pattern: there is none exactly when the pattern does not
stand in the text (`cut_eq_none_iff`), and what is in front of it holds no other, not even together
with the front of the pattern (`cut_eq_some_iff`).  For a pair of one character this means that the
part in front is `Clear` of it: no pair stands in that part and none begins at its end.  Such a part
can be put in front of any text without moving the cut (`cut_pair_append`).  `splitOn` goes from one
separator to the next, and so does an induction on a text (`parts_induction`).
-/

namespace ViewTree.Text

variable {pattern s t before after : List Char} {c : Char}

/-! ### The first occurrence -/

theorem cut_cons_of_pos (h : pattern <+: c :: s) :
    cut pattern (c :: s) = some ([], (c :: s).drop pattern.length) := by
  rw [cut, if_pos (List.isPrefixOf_iff_prefix.2 h)]

theorem cut_cons_of_neg (h : ¬ pattern <+: c :: s) :
    cut pattern (c :: s) = (cut pattern s).map fun found => (c :: found.1, found.2) := by
  rw [cut, if_neg fun hp => h (List.isPrefixOf_iff_prefix.1 hp)]

/-- A text is cut where the pattern stands in it. -/
theorem cut_eq_none_iff (hne : pattern ≠ []) : cut pattern s = none ↔ ¬ pattern <:+: s := by
  induction s with
  | nil => simp [cut, hne]
  | cons c s ih =>
      by_cases h : pattern <+: c :: s
      · simp [cut_cons_of_pos h, h.isInfix]
      · simp [cut_cons_of_neg h, List.infix_cons_iff, h, ih]

theorem prefix_append_dropLast (front pattern after : List Char) :
    front ++ pattern.dropLast <+: front ++ (pattern ++ after) :=
  (List.prefix_append_right_inj front).2
    ((List.dropLast_prefix pattern).trans (List.prefix_append pattern after))

/-- What is in front of a cut holds no occurrence, and none begins in it and ends in the one that
is cut out. -/
theorem not_isInfix_of_cut (hne : pattern ≠ []) (h : cut pattern s = some (before, after)) :
    ¬ pattern <:+: before ++ pattern.dropLast := by
  induction s generalizing before with
  | nil => simp [cut, hne] at h
  | cons c s ih =>
      by_cases hp : pattern <+: c :: s
      · rw [cut_cons_of_pos hp] at h
        cases h
        intro hinfix
        have hle : pattern.length ≤ pattern.length - 1 := by simpa using hinfix.length_le
        have hpos := List.length_pos_iff.2 hne
        omega
      · rw [cut_cons_of_neg hp] at h
        obtain ⟨⟨front, rest⟩, hfound, heq⟩ := Option.map_eq_some_iff.1 h
        cases heq
        intro hinfix
        rw [List.cons_append, List.infix_cons_iff] at hinfix
        rcases hinfix with hfront | hlater
        · have hs : front ++ (pattern ++ rest) = s := by simpa using append_of_cut hfound
          have hprefix : front ++ pattern.dropLast <+: s := hs ▸ prefix_append_dropLast front _ _
          exact hp (hfront.trans ((List.prefix_cons_inj c).2 hprefix))
        · exact ih hfound hlater

theorem cut_prefix_append (hne : pattern ≠ []) (after : List Char) :
    cut pattern (pattern ++ after) = some ([], after) := by
  cases pattern with
  | nil => exact absurd rfl hne
  | cons c p =>
      have h : c :: p <+: c :: (p ++ after) := List.prefix_append (c :: p) after
      rw [List.cons_append, cut_cons_of_pos h]
      simp

/-- A text is cut at an occurrence before which there is no other. -/
theorem cut_append (hne : pattern ≠ []) (h : ¬ pattern <:+: before ++ pattern.dropLast)
    (after : List Char) : cut pattern (before ++ (pattern ++ after)) = some (before, after) := by
  induction before with
  | nil => exact cut_prefix_append hne after
  | cons c front ih =>
      rw [List.cons_append, List.infix_cons_iff, not_or] at h
      have hp : ¬ pattern <+: c :: (front ++ (pattern ++ after)) := by
        intro hp
        have hreach : c :: (front ++ pattern.dropLast) <+: c :: (front ++ (pattern ++ after)) :=
          (List.prefix_cons_inj c).2 (prefix_append_dropLast front pattern after)
        have hpos := List.length_pos_iff.2 hne
        refine h.1 (List.prefix_of_prefix_length_le hp hreach ?_)
        simp
        omega
      rw [List.cons_append, cut_cons_of_neg hp, ih h.2]
      rfl

theorem cut_eq_some_iff (hne : pattern ≠ []) :
    cut pattern s = some (before, after) ↔
      before ++ (pattern ++ after) = s ∧ ¬ pattern <:+: before ++ pattern.dropLast := by
  constructor
  · intro h
    exact ⟨by simpa using append_of_cut h, not_isInfix_of_cut hne h⟩
  · rintro ⟨rfl, h⟩
    exact cut_append hne h after

/-- Whatever follows an occurrence follows the first one too. -/
theorem suffix_of_cut (hne : pattern ≠ [])
    (h : cut pattern (t ++ (pattern ++ s)) = some (before, after)) : s <:+ after := by
  induction t generalizing before with
  | nil =>
      rw [List.nil_append, cut_prefix_append hne] at h
      cases h
      exact List.suffix_rfl
  | cons c t ih =>
      by_cases hp : pattern <+: c :: (t ++ (pattern ++ s))
      · rw [List.cons_append, cut_cons_of_pos hp] at h
        cases h
        have hsuffix : s <:+ c :: (t ++ (pattern ++ s)) := ⟨c :: (t ++ pattern), by simp⟩
        refine List.suffix_of_suffix_length_le hsuffix (List.drop_suffix _ _) ?_
        simp
        omega
      · rw [List.cons_append, cut_cons_of_neg hp] at h
        obtain ⟨⟨front, rest⟩, hfound, heq⟩ := Option.map_eq_some_iff.1 h
        cases heq
        exact ih hfound

/-! ### A character -/

theorem cut_singleton_eq_some_iff :
    cut [c] s = some (before, after) ↔ before ++ c :: after = s ∧ c ∉ before := by
  simp [cut_eq_some_iff, List.singleton_infix_iff]

/-! ### A pair of one character -/

/-- No pair of a character stands in the text, and none begins at its end. -/
structure Clear (c : Char) (s : List Char) : Prop where
  apart : ¬ [c, c] <:+: s
  ended : s.getLast? ≠ some c

theorem clear_nil (c : Char) : Clear c [] :=
  ⟨by simp, by simp⟩

theorem clear_iff : Clear c s ↔ ¬ [c, c] <:+: s ++ [c] := by
  have hlast : [c, c] <:+ s ++ [c] ↔ s.getLast? = some c := by
    have hends : [c] ++ [c] <:+ s ++ [c] ↔ [c] <:+ s ∧ [c] = [c] :=
      List.suffix_append_inj_of_length_eq rfl
    simpa [List.singleton_suffix_iff_getLast?_eq_some] using hends
  rw [List.infix_concat_iff, hlast, not_or]
  exact ⟨fun h => ⟨h.ended, h.apart⟩, fun h => ⟨h.2, h.1⟩⟩

theorem cut_pair_eq_some_iff :
    cut [c, c] s = some (before, after) ↔ before ++ c :: c :: after = s ∧ Clear c before := by
  simp [cut_eq_some_iff, clear_iff]

/-- A clear text in front of another does not move the cut. -/
theorem cut_pair_append (h : Clear c s) (t : List Char) :
    cut [c, c] (s ++ t) = (cut [c, c] t).map fun found => (s ++ found.1, found.2) := by
  rw [clear_iff] at h
  induction s with
  | nil => simp
  | cons d s ih =>
      rw [List.cons_append, List.infix_cons_iff, not_or] at h
      have hp : ¬ [c, c] <+: d :: (s ++ t) := by
        intro hp
        refine h.1 ?_
        rw [List.cons_prefix_cons] at hp ⊢
        cases s with
        | nil => exact ⟨hp.1, List.prefix_rfl⟩
        | cons e s => simpa using hp
      rw [List.cons_append, cut_cons_of_neg hp, ih h.2, Option.map_map]
      rfl

theorem Clear.append (hs : Clear c s) (ht : Clear c t) : Clear c (s ++ t) := by
  have hpair : [c, c] ≠ [] := List.cons_ne_nil c [c]
  rw [clear_iff, ← cut_eq_none_iff hpair] at ht ⊢
  rw [List.append_assoc, cut_pair_append hs, ht]
  rfl

/-! ### The parts between separators -/

theorem splitOn_of_not_mem (h : c ∉ s) : splitOn c s = [s] := by
  induction s with
  | nil => rfl
  | cons d s ih =>
      rw [List.mem_cons, not_or] at h
      rw [splitOn, if_neg fun hd => h.1 hd.symm, ih h.2]

theorem splitOn_append (h : c ∉ before) (after : List Char) :
    splitOn c (before ++ c :: after) = before :: splitOn c after := by
  induction before with
  | nil => rw [List.nil_append, splitOn, if_pos rfl]
  | cons d front ih =>
      rw [List.mem_cons, not_or] at h
      rw [List.cons_append, splitOn, if_neg fun hd => h.1 hd.symm, ih h.2]

/-- A text has no separator, or it has a part without one in front of the first. -/
@[elab_as_elim]
theorem parts_induction {motive : List Char → Prop} (c : Char)
    (single : ∀ part, c ∉ part → motive part)
    (several : ∀ part rest, c ∉ part → motive rest → motive (part ++ c :: rest))
    (s : List Char) : motive s := by
  -- generalised to a part of which the front is already known
  have hfront : ∀ front : List Char, c ∉ front → motive (front ++ s) := by
    induction s with
    | nil =>
        intro front h
        rw [List.append_nil]
        exact single front h
    | cons d s ih =>
        intro front h
        by_cases hd : d = c
        · subst hd
          exact several front s h (ih [] List.not_mem_nil)
        · have hlonger : c ∉ front ++ [d] := by
            rw [List.mem_append, List.mem_singleton, not_or]
            exact ⟨h, fun hc => hd hc.symm⟩
          simpa using ih (front ++ [d]) hlonger
  exact hfront [] List.not_mem_nil

end ViewTree.Text
