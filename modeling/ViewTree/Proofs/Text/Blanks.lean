import Mathlib.Data.List.TakeWhile
import ViewTree.Text.Blank

/-!
# Text — blanks at the ends

What `trim` takes off a text are blanks at its two ends (`exists_eq_append_trim`), so blanks that
are put in front of a text or behind it do not count, and a text without blanks stays as it is.  So
does a text that has blanks only inside, also with a text without blanks behind it (`trim_append`).
-/

namespace ViewTree.Text

theorem trimEnd_append {after : List Char} (h : ∀ c ∈ after, isBlank c = true) (s : List Char) :
    trimEnd (s ++ after) = trimEnd s := by
  have hafter : after.reverse.dropWhile isBlank = [] :=
    List.dropWhile_eq_nil_iff.2 fun c hc => h c (List.mem_reverse.1 hc)
  rw [trimEnd, trimEnd, List.reverse_append, List.dropWhile_append, hafter]
  rfl

theorem trim_append_left {before : List Char} (h : ∀ c ∈ before, isBlank c = true)
    (s : List Char) : trim (before ++ s) = trim s := by
  have hbefore : before.dropWhile isBlank = [] := List.dropWhile_eq_nil_iff.2 h
  rw [trim, trim, List.dropWhile_append, hbefore]
  rfl

theorem trim_append_right {after : List Char} (h : ∀ c ∈ after, isBlank c = true)
    (s : List Char) : trim (s ++ after) = trim s := by
  have hafter : after.dropWhile isBlank = [] := List.dropWhile_eq_nil_iff.2 h
  rw [trim, trim, List.dropWhile_append]
  split
  · next hs => rw [hafter, List.isEmpty_iff.1 hs]
  · exact trimEnd_append h _

/-- What is trimmed off a text are blanks at its two ends. -/
theorem exists_eq_append_trim (s : List Char) :
    ∃ before after, s = before ++ (trim s ++ after) ∧ (∀ c ∈ before, isBlank c = true) ∧
      ∀ c ∈ after, isBlank c = true := by
  let inner := s.dropWhile isBlank
  refine ⟨s.takeWhile isBlank, (inner.reverse.takeWhile isBlank).reverse, ?_,
    fun c hc => List.mem_takeWhile_imp hc,
    fun c hc => List.mem_takeWhile_imp (List.mem_reverse.1 hc)⟩
  have hinner : trim s ++ (inner.reverse.takeWhile isBlank).reverse = inner := by
    rw [trim, trimEnd, ← List.reverse_append, List.takeWhile_append_dropWhile,
      List.reverse_reverse]
  rw [hinner, List.takeWhile_append_dropWhile]

theorem isInfix_trim (s : List Char) : trim s <:+: s := by
  obtain ⟨before, after, hs, -, -⟩ := exists_eq_append_trim s
  exact ⟨before, after, by rw [List.append_assoc]; exact hs.symm⟩

/-- A character of a text stands in what is left of it or is a blank. -/
theorem mem_trim_or_isBlank {s : List Char} {c : Char} (h : c ∈ s) :
    c ∈ trim s ∨ isBlank c = true := by
  obtain ⟨before, after, hs, hbefore, hafter⟩ := exists_eq_append_trim s
  rw [hs, List.mem_append, List.mem_append] at h
  rcases h with h | h | h
  · exact .inr (hbefore c h)
  · exact .inl h
  · exact .inr (hafter c h)

theorem forall_isBlank_of_any {s : List Char} (h : s.any isBlank = false) :
    ∀ c ∈ s, isBlank c = false := by
  intro c hc
  rw [Bool.eq_false_iff]
  exact List.any_eq_false.1 h c hc

theorem trim_eq_self {s : List Char} (h : ∀ c ∈ s, isBlank c = false) : trim s = s := by
  obtain ⟨before, after, hs, hbefore, hafter⟩ := exists_eq_append_trim s
  have hnil : ∀ part : List Char, part ⊆ s → (∀ c ∈ part, isBlank c = true) → part = [] := by
    intro part hsub hblank
    refine List.eq_nil_iff_forall_not_mem.2 fun c hc => ?_
    have hfalse := h c (hsub hc)
    rw [hblank c hc] at hfalse
    cases hfalse
  have hfront : before = [] := hnil before (by rw [hs]; simp) hbefore
  have hback : after = [] := hnil after (by rw [hs]; simp) hafter
  simpa [hfront, hback] using hs.symm

theorem length_trimEnd_le (s : List Char) : (trimEnd s).length ≤ s.length := by
  rw [trimEnd, List.length_reverse, ← s.length_reverse]
  exact (List.dropWhile_suffix isBlank).length_le

/-- A text without blanks at its ends has none there either when a text without any stands behind
it. -/
theorem trim_append {s t : List Char} (hs : trim s = s) (hne : s ≠ [])
    (ht : ∀ c ∈ t, isBlank c = false) : trim (s ++ t) = s ++ t := by
  have hfront : s.dropWhile isBlank = s := by
    refine (List.dropWhile_suffix isBlank).eq_of_length_le ?_
    have hle := length_trimEnd_le (s.dropWhile isBlank)
    rwa [← trim, hs] at hle
  have hback : trimEnd (s ++ t) = s ++ t := by
    cases t with
    | nil =>
        rw [trim, hfront] at hs
        rw [List.append_nil, hs]
    | cons c t =>
        have hlast : (c :: t).reverse.dropWhile isBlank = (c :: t).reverse := by
          refine List.dropWhile_eq_self_iff.2 fun hlength => ?_
          have hmem := List.mem_reverse.1 (List.get_mem (c :: t).reverse ⟨0, hlength⟩)
          exact Bool.eq_false_iff.1 (ht _ hmem)
        have hsome : ¬ ((c :: t).reverse.isEmpty = true) := by simp
        rw [trimEnd, List.reverse_append, List.dropWhile_append, hlast, if_neg hsome,
          ← List.reverse_append, List.reverse_reverse]
  have hsome : ¬ (s.isEmpty = true) := fun h => hne (List.isEmpty_iff.1 h)
  rw [trim, List.dropWhile_append, hfront, if_neg hsome, hback]

end ViewTree.Text
