import ViewTree.Proofs.Path.Grammar

/-!
# Path — going on behind a path

Steps are written behind a path one after the other: a key behind a point, an index in brackets
(`continuation`).  One more step makes the parts of a path one part longer or the last of them one
index longer (`Spelled.append_step`), so a path with steps behind it is read as the steps of the
path and then those (`parse?_append`).
-/

namespace ViewTree

open Text

namespace Path

/-- A run of key characters. -/
structure IsKey (key : List Char) : Prop where
  inhabited : key ≠ []
  keyed : ∀ c ∈ key, isKeyChar c = true

theorem IsKey.of_all {key : List Char} (hne : key ≠ []) (h : key.all isKeyChar = true) :
    IsKey key :=
  ⟨hne, List.all_eq_true.1 h⟩

/-- The part of a key without indices. -/
def IsKey.part {key : List Char} (h : IsKey key) : Part :=
  ⟨key, [], h.inhabited, h.keyed, nofun⟩

theorem IsKey.isBlank {key : List Char} (h : IsKey key) : ∀ c ∈ key, isBlank c = false :=
  fun c hc => isBlank_of_isKeyChar (h.keyed c hc)

theorem isKey_digits (i : Nat) : IsKey (digits i) := by
  obtain ⟨d, ds, hdigits, -⟩ := digits_leads i
  exact ⟨by rw [hdigits]; exact List.cons_ne_nil d ds,
    fun c hc => isKeyChar_of_isDigit (isDigit_of_mem_digits hc)⟩

theorem IsKey.spelled {key : List Char} (h : IsKey key) : h.part.Spelled key := by
  have hspelled := h.part.spelled_spelling
  rwa [Part.spelling, IsKey.part, List.flatMap_nil, List.append_nil] at hspelled

/-- A key alone is a path. -/
theorem IsKey.parse?_eq {key : List Char} (h : IsKey key) :
    parse? key = some [.key (String.ofList key)] := by
  refine parse?_eq_some_iff.2 ⟨[h.part], ?_, rfl⟩
  rw [trim_eq_self h.isBlank]
  exact .single h.spelled

end Path

open ViewTree.Path

namespace Step

/-- The text of a step behind a path. -/
def spelling : Step → List Char
  | key name => '.' :: name.toList
  | index i => bracket i

/-- A step that has a text. -/
inductive Writable : Step → Prop where
  | key {name : String} (h : IsKey name.toList) : Writable (.key name)
  | index {i : Nat} (h : i < wordBound) : Writable (.index i)

theorem Writable.isBlank {step : Step} (h : step.Writable) :
    ∀ c ∈ step.spelling, isBlank c = false := by
  cases h with
  | key h =>
      refine List.forall_mem_cons.2 ⟨rfl, ?_⟩
      exact h.isBlank
  | index => exact fun c => isBlank_of_mem_bracket

end Step

namespace Path

/-- The text of steps behind a path. -/
def continuation (steps : List Step) : List Char :=
  steps.flatMap Step.spelling

theorem isBlank_of_mem_continuation {steps : List Step} (h : ∀ step ∈ steps, step.Writable) :
    ∀ c ∈ continuation steps, isBlank c = false := by
  intro c hc
  obtain ⟨step, hstep, hmem⟩ := List.mem_flatMap.1 hc
  exact (h step hstep).isBlank c hmem

/-! ### One more step -/

theorem Brackets.append {is js : List Nat} {s t : List Char} (hs : Brackets is s)
    (ht : Brackets js t) : Brackets (is ++ js) (s ++ t) := by
  induction hs with
  | none => exact ht
  | more h _ ih => simpa using Brackets.more h ih

/-- An index behind a part belongs to it. -/
theorem Part.Spelled.append_bracket {part : Part} {s : List Char} (h : part.Spelled s) {i : Nat}
    (hi : i < wordBound) :
    ∃ longer : Part, longer.Spelled (s ++ bracket i) ∧ longer.steps = part.steps ++ [.index i] := by
  cases h with
  | @intro s h =>
      have hone : Brackets [i] ([i].flatMap bracket) :=
        brackets_flatMap (List.forall_mem_singleton.2 hi)
      rw [List.flatMap_singleton] at hone
      have hindices := h.append hone
      let longer : Part :=
        ⟨part.key, part.indices ++ [i], part.inhabited, part.keyed, hindices.bounded⟩
      have hspelled : longer.Spelled (longer.key ++ (s ++ bracket i)) := .intro hindices
      refine ⟨longer, ?_, by simp [longer, Part.steps]⟩
      rwa [← List.append_assoc] at hspelled

/-- A path with a step behind it is a path with that step at its end. -/
theorem Spelled.append_step {parts : List Part} {s : List Char} (h : Spelled parts s) {step : Step}
    (hstep : step.Writable) :
    ∃ longer, Spelled longer (s ++ step.spelling) ∧
      longer.flatMap Part.steps = parts.flatMap Part.steps ++ [step] := by
  induction h with
  | @single part s h =>
      cases hstep with
      | key hkey =>
          refine ⟨[part, hkey.part], .several h (.single hkey.spelled), ?_⟩
          simp [IsKey.part, Part.steps]
      | index hi =>
          obtain ⟨longer, hlonger, hsteps⟩ := h.append_bracket hi
          exact ⟨[longer], .single hlonger, by simpa using hsteps⟩
  | @several part parts s t h _ ih =>
      obtain ⟨longer, hlonger, hsteps⟩ := ih
      refine ⟨part :: longer, ?_, ?_⟩
      · simpa using Spelled.several h hlonger
      · rw [List.flatMap_cons, hsteps, List.flatMap_cons, List.append_assoc]

/-- A path with steps behind it is a path with those at its end. -/
theorem Spelled.append_continuation {parts : List Part} {s : List Char} (h : Spelled parts s)
    {steps : List Step} (hsteps : ∀ step ∈ steps, step.Writable) :
    ∃ longer, Spelled longer (s ++ continuation steps) ∧
      longer.flatMap Part.steps = parts.flatMap Part.steps ++ steps := by
  induction steps generalizing parts s with
  | nil => exact ⟨parts, by simpa [continuation] using h, by simp⟩
  | cons step steps ih =>
      obtain ⟨hstep, hrest⟩ := List.forall_mem_cons.1 hsteps
      obtain ⟨next, hnext, hone⟩ := h.append_step hstep
      obtain ⟨longer, hlonger, hmore⟩ := ih hnext hrest
      refine ⟨longer, ?_, by rw [hmore, hone, List.append_assoc, List.singleton_append]⟩
      rwa [List.append_assoc] at hlonger

/-- **A path without blanks at its ends is read on** as the steps that are written behind it. -/
theorem parse?_append {p : List Char} {steps : List Step} (hp : parse? p = some steps)
    (htrim : trim p = p) {more : List Step} (hmore : ∀ step ∈ more, step.Writable) :
    parse? (p ++ continuation more) = some (steps ++ more) := by
  obtain ⟨parts, hparts, rfl⟩ := parse?_eq_some_iff.1 hp
  rw [htrim] at hparts
  have hne : p ≠ [] := by
    obtain ⟨c, rest, rfl, -⟩ := hparts.exists_eq_cons
    exact List.cons_ne_nil c rest
  refine parse?_eq_some_iff.2 ?_
  rw [trim_append htrim hne (isBlank_of_mem_continuation hmore)]
  exact hparts.append_continuation hmore

end Path

end ViewTree
