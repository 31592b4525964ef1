import ViewTree.Path
import ViewTree.Proofs.Number.Finiteness

/-!
# Scope — scopes of finite numbers

A path leads from a value to what is stored in it or to a length that is counted from it.  So in a
scope whose numbers are all finite every path leads to a value whose numbers are finite: an element
has no others, and a length is finite, since lists and texts are shorter than 2^64.

* `Value.stored?_eq_some`, `Value.computed?_eq_some`: what one step into a value gives.
* `Value.IsFinite.follow?`, `Scope.IsFinite.lookup`: paths keep to finite numbers.
* `Scope.isFinite_ofValue`: the scope of a record of finite numbers.
-/

namespace ViewTree

open Text

namespace Value

/-! ### One step -/

/-- What is stored in a value is an item or the value of a field. -/
theorem stored?_eq_some {v w : Value} {step : Step} (h : v.stored? step = some w) :
    (∃ items, v = .list items ∧ w ∈ items) ∨
      ∃ fields name, v = .record fields ∧ (name, w) ∈ fields := by
  cases v with
  | list items =>
      refine .inl ⟨items, rfl, ?_⟩
      cases step with
      | index i => exact List.mem_of_getElem? h
      | key name =>
          obtain ⟨i, -, hi⟩ := Option.bind_eq_some_iff.1 h
          exact List.mem_of_getElem? hi
  | record fields =>
      cases step with
      | index i => exact .inr ⟨fields, _, rfl, Fields.mem_of_get?_eq_some h⟩
      | key name => exact .inr ⟨fields, name, rfl, Fields.mem_of_get?_eq_some h⟩
  | _ => cases h

/-- What is computed from a value is the length of a list or a text. -/
theorem computed?_eq_some {v w : Value} {step : Step} (h : v.computed? step = some w) :
    ∃ n, w = .number (Number.ofNat n) ∧
      ((∃ items, v = .list items ∧ n = items.length) ∨ ∃ s, v = .text s ∧ n = s.length) := by
  rw [computed?.eq_def] at h
  split at h
  · split at h
    · next items => cases h; exact ⟨_, rfl, .inl ⟨items, rfl, rfl⟩⟩
    · next s => cases h; exact ⟨_, rfl, .inr ⟨s, rfl, rfl⟩⟩
    · cases h
  · cases h

/-- Then it leads to the one or the other. -/
theorem step?_eq_some {v w : Value} {step : Step} (h : v.step? step = some w) :
    v.stored? step = some w ∨ v.computed? step = some w := by
  rw [step?] at h
  cases hstored : v.stored? step with
  | some found => rw [hstored] at h; exact .inl h
  | none => rw [hstored] at h; exact .inr h

/-! ### Finite numbers -/

/-- Every number in a value is finite, and every list and text in it is counted below 2^64. -/
inductive IsFinite : Value → Prop where
  | undefined : IsFinite .undefined
  | null : IsFinite .null
  | bool (b : Bool) : IsFinite (.bool b)
  | number {x : Float} (h : x.isFinite = true) : IsFinite (.number x)
  | text {s : String} (h : s.length < wordBound) : IsFinite (.text s)
  | list {items : List Value} (hlength : items.length < wordBound)
      (h : ∀ v ∈ items, IsFinite v) : IsFinite (.list items)
  | record {fields : List (String × Value)} (h : ∀ f ∈ fields, IsFinite f.2) :
      IsFinite (.record fields)

namespace IsFinite

theorem isFinite_number {x : Float} (h : IsFinite (.number x)) : x.isFinite = true := by
  cases h with
  | number h => exact h

variable {v w : Value} {step : Step}

theorem stored? (hv : v.IsFinite) (h : v.stored? step = some w) : w.IsFinite := by
  rcases stored?_eq_some h with ⟨items, rfl, hw⟩ | ⟨fields, name, rfl, hw⟩
  · cases hv with
    | list _ hitems => exact hitems w hw
  · cases hv with
    | record hfields => exact hfields _ hw

theorem computed? (hv : v.IsFinite) (h : v.computed? step = some w) : w.IsFinite := by
  obtain ⟨n, rfl, hn⟩ := computed?_eq_some h
  refine .number (Number.isFinite_ofNat ?_)
  rcases hn with ⟨items, rfl, rfl⟩ | ⟨s, rfl, rfl⟩
  · cases hv with
    | list hlength _ => exact hlength
  · cases hv with
    | text hlength => exact hlength

theorem step? (hv : v.IsFinite) (h : v.step? step = some w) : w.IsFinite := by
  rcases step?_eq_some h with hstored | hcomputed
  · exact hv.stored? hstored
  · exact hv.computed? hcomputed

theorem follow? {steps : List Step} (hv : v.IsFinite) (h : v.follow? steps = some w) :
    w.IsFinite := by
  induction steps generalizing v with
  | nil => cases h; exact hv
  | cons step steps ih =>
      obtain ⟨next, hnext, hrest⟩ := Option.bind_eq_some_iff.1 h
      exact ih (hv.step? hnext) hrest

end IsFinite

end Value

/-! ### Scopes -/

/-- Every name stands for a value of finite numbers. -/
def Scope.IsFinite (scope : Scope) : Prop :=
  ∀ (name : String) (v : Value), scope.get? name = some v → v.IsFinite

namespace Scope

theorem isFinite_empty : empty.IsFinite := nofun

theorem IsFinite.layer {scope : Scope} (h : scope.IsFinite) {bindings : List (String × Value)}
    (hb : ∀ b ∈ bindings, b.2.IsFinite) : (scope.layer bindings).IsFinite := by
  intro name v hv
  rw [get?_layer, Fields.get?_ofList] at hv
  rcases Option.or_eq_some_iff.1 hv with hv | ⟨-, hv⟩
  · exact hb _ (List.mem_reverse.1 (Fields.mem_of_get?_eq_some hv))
  · exact h name v hv

theorem isFinite_ofValue {v : Value} (hv : v.IsFinite) : (ofValue v).IsFinite := by
  cases hv with
  | record hfields => exact isFinite_empty.layer hfields
  | _ => exact isFinite_empty

/-- **Every path leads to a value of finite numbers.** -/
theorem IsFinite.lookup {scope : Scope} (h : scope.IsFinite) (path : List Char) :
    (scope.lookup path).IsFinite := by
  rw [Scope.lookup]
  cases Path.parse? path with
  | none => exact .undefined
  | some steps =>
      cases steps with
      | nil => exact .undefined
      | cons first steps =>
          cases first with
          | index i => exact .undefined
          | key name =>
              simp only [follow]
              cases hv : (scope.get? name).bind (·.follow? steps) with
              | none => exact .undefined
              | some v =>
                  obtain ⟨root, hroot, hv⟩ := Option.bind_eq_some_iff.1 hv
                  exact (h name root hroot).follow? hv

end Scope

end ViewTree
