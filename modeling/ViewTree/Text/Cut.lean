/-!
# Text — cutting at a separator

`cut` splits a text at the first occurrence of a pattern and `splitOn` at every occurrence of a
character.  Neither loses anything: the parts joined by the separator are the text again
(`append_of_cut`).
-/

namespace ViewTree.Text

/-- What stands before and after the first occurrence of `pattern`. -/
def cut (pattern : List Char) : List Char → Option (List Char × List Char)
  | [] => if pattern.isEmpty then some ([], []) else none
  | c :: s =>
    if pattern.isPrefixOf (c :: s) then some ([], (c :: s).drop pattern.length)
    else (cut pattern s).map fun (before, after) => (c :: before, after)

/-- A cut takes nothing away but the pattern. -/
theorem append_of_cut {pattern before after : List Char} :
    ∀ {s : List Char}, cut pattern s = some (before, after) → before ++ pattern ++ after = s
  | [], h => by
    simp only [cut, Option.ite_none_right_eq_some, List.isEmpty_iff] at h
    obtain ⟨rfl, h⟩ := h
    cases h
    rfl
  | c :: s, h => by
    rw [cut] at h
    split at h
    · next hp =>
      cases h
      rw [List.isPrefixOf_iff_prefix] at hp
      obtain ⟨t, ht⟩ := hp
      rw [← ht]
      simp
    · next hp =>
      obtain ⟨⟨b, a⟩, hc, hba⟩ := Option.map_eq_some_iff.1 h
      cases hba
      rw [← append_of_cut hc]
      simp

/-- What follows a cut is shorter than the text by at least the pattern. -/
theorem length_of_cut {pattern before after s : List Char}
    (h : cut pattern s = some (before, after)) : pattern.length + after.length ≤ s.length := by
  rw [← append_of_cut h]
  simp only [List.length_append]
  omega

/-- The parts between the occurrences of `separator`; there is always at least one. -/
def splitOn (separator : Char) : List Char → List (List Char)
  | [] => [[]]
  | c :: s =>
    if c = separator then [] :: splitOn separator s
    else match splitOn separator s with
      | [] => [[c]]
      | part :: parts => (c :: part) :: parts

end ViewTree.Text
