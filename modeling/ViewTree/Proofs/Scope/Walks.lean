import ViewTree.Proofs.Path.Continuations

/-!
# Scope — paths walked in two parts

What a path with steps behind it leads to is found by going those steps from where the path itself
leads (`lookup_append`), also where that is nowhere: no step leads out of `undefined`.  So the first
part of a path can be bound to a name and the rest looked up from there, and a list or a record
answers an index behind a point as it answers it in brackets (`lookup_split`).
-/

namespace ViewTree

open Text
open ViewTree.Path

/-! ### Steps from a value -/

namespace Value

theorem follow?_append (v : Value) (steps more : List Step) :
    v.follow? (steps ++ more) = (v.follow? steps).bind (·.follow? more) := by
  rw [follow?, List.foldlM_append]
  rfl

/-- Nothing but a length is computed. -/
theorem computed?_of_ne (v : Value) {step : Step} (h : step ≠ lengthStep) :
    v.computed? step = none := by
  rw [computed?.eq_def, if_neg h]

theorem step?_undefined (step : Step) : undefined.step? step = none := by
  have hcomputed : undefined.computed? step = none := by rw [computed?.eq_def, ite_self]
  have hstored : undefined.stored? step = none := by cases step <;> rfl
  rw [step?, hstored, hcomputed]
  rfl

/-- Steps from nowhere lead nowhere. -/
theorem follow?_undefined (steps : List Step) :
    (undefined.follow? steps).getD undefined = undefined := by
  cases steps with
  | nil => rfl
  | cons step steps =>
      have hnone : undefined.follow? (step :: steps) = none := by
        rw [follow?, List.foldlM_cons, step?_undefined]
        rfl
      rw [hnone, Option.getD_none]

/-- The digits of an index are a key for the same element. -/
theorem step?_digits {i : Nat} (hi : i < wordBound) (v : Value) :
    v.step? (.key (String.ofList (digits i))) = v.step? (.index i) := by
  have hstored : v.stored? (.key (String.ofList (digits i))) = v.stored? (.index i) := by
    cases v with
    | list items =>
        rw [stored?, stored?, String.toList_ofList, word?_eq_some_iff.2 (numeral_digits hi)]
        rfl
    | _ => rfl
  have hlength : Step.key (String.ofList (digits i)) ≠ lengthStep := by
    intro h
    have hname : digits i = "length".toList := by
      rw [← Step.key.inj h, String.toList_ofList]
    have hmem : 'l' ∈ digits i := by rw [hname]; decide
    cases isDigit_of_mem_digits hmem
  have hindex : Step.index i ≠ lengthStep := nofun
  rw [step?, step?, hstored, computed?_of_ne v hlength, computed?_of_ne v hindex]

end Value

/-! ### Paths -/

namespace Scope

/-- A way from a name is gone on from where it leads. -/
theorem follow_append (scope : Scope) (name : String) (steps more : List Step) :
    scope.follow (.key name :: (steps ++ more)) =
      ((scope.follow (.key name :: steps)).follow? more).getD .undefined := by
  have hsplit : (scope.get? name).bind (·.follow? (steps ++ more)) =
      ((scope.get? name).bind (·.follow? steps)).bind (·.follow? more) := by
    rw [Option.bind_assoc]
    congr 1
    funext v
    exact v.follow?_append steps more
  rw [follow, follow, hsplit]
  cases (scope.get? name).bind (·.follow? steps) with
  | none => exact (Value.follow?_undefined more).symm
  | some v => rfl

/-- A path with steps behind it leads to where the steps lead from the end of the path. -/
theorem lookup_append (scope : Scope) {p : List Char} {steps : List Step}
    (hp : parse? p = some steps) (htrim : trim p = p) {more : List Step}
    (hmore : ∀ step ∈ more, step.Writable) :
    scope.lookup (p ++ continuation more) =
      ((scope.lookup p).follow? more).getD .undefined := by
  obtain ⟨name, rest, rfl, -⟩ := exists_of_parse? hp
  rw [lookup, lookup, hp, parse?_append hp htrim hmore]
  exact scope.follow_append name rest more

/-- A name that is bound leads to its value. -/
theorem lookup_bind (scope : Scope) {key : List Char} (h : IsKey key) (v : Value) :
    (scope.bind (String.ofList key) v).lookup key = v := by
  rw [lookup, h.parse?_eq]
  simp only [follow, bind, get?_layer, Fields.get?_ofList, List.reverse_singleton,
    Fields.get?_cons, if_true, Option.some_or, Option.bind_some]
  rfl

/-- **A path can be walked in two parts.**  Where a path without blanks at its ends has steps behind
it, what it leads to is what those steps lead to from a name that the front of the path is bound to;
and an index between the front and the steps may be written behind a point or in brackets. -/
theorem lookup_split (scope : Scope) {p : List Char} {steps : List Step}
    (hp : parse? p = some steps) (htrim : trim p = p) {more : List Step}
    (hmore : ∀ step ∈ more, step.Writable) :
    (∀ name, IsKey name →
      scope.lookup (p ++ continuation more) =
        (scope.bind (String.ofList name) (scope.lookup p)).lookup (name ++ continuation more)) ∧
    ∀ i < wordBound,
      scope.lookup (p ++ ('.' :: digits i ++ continuation more)) =
        scope.lookup (p ++ ('[' :: digits i ++ ']' :: continuation more)) := by
  constructor
  · intro name hname
    have hrest := lookup_append (scope.bind (String.ofList name) (scope.lookup p)) hname.parse?_eq
      (trim_eq_self hname.isBlank) hmore
    rw [lookup_append scope hp htrim hmore, hrest, scope.lookup_bind hname]
  · intro i hi
    have hkey : ∀ step ∈ .key (String.ofList (digits i)) :: more, step.Writable := by
      refine List.forall_mem_cons.2 ⟨.key ?_, hmore⟩
      rw [String.toList_ofList]
      exact isKey_digits i
    have hindex : ∀ step ∈ .index i :: more, step.Writable :=
      List.forall_mem_cons.2 ⟨.index hi, hmore⟩
    have hpoint : '.' :: digits i ++ continuation more =
        continuation (.key (String.ofList (digits i)) :: more) := by
      simp [continuation, Step.spelling]
    have hbrackets : '[' :: digits i ++ ']' :: continuation more =
        continuation (.index i :: more) := by
      simp [continuation, Step.spelling, bracket]
    rw [hpoint, hbrackets, lookup_append scope hp htrim hkey, lookup_append scope hp htrim hindex]
    simp only [Value.follow?, List.foldlM_cons, Value.step?_digits hi]

/-- A record in a list, and a list under a numeral in the record. -/
def shelfScope : Scope :=
  .ofValue (.record [("shelf", .list [.record [("1", .list [.null, .text "first"])]])])

/-- The way to the length of the second element. -/
def secondLength : List Step :=
  [.index 1, .key "length"]

theorem writable_secondLength : ∀ step ∈ secondLength, step.Writable := by
  have hlength : IsKey "length".toList := .of_all (by decide) (by decide +kernel)
  exact List.forall_mem_cons.2 ⟨.index (by decide), List.forall_mem_singleton.2 (.key hlength)⟩

/-- A length is found through a name for the front of the path, and a text through an index behind a
point; there are blanks in brackets at the front. -/
theorem lookup_split_shelfScope :
    parse? "shelf[ 0 ]".toList = some [.key "shelf", .index 0] ∧
      trim "shelf[ 0 ]".toList = "shelf[ 0 ]".toList ∧ IsKey "x".toList ∧
      (∀ step ∈ secondLength, step.Writable) ∧
      (shelfScope.bind "x" (shelfScope.lookup "shelf[ 0 ]".toList)).lookup
        "x[1].length".toList = shelfScope.lookup "shelf[ 0 ][1].length".toList ∧
      shelfScope.lookup "shelf[ 0 ].1[1].length".toList = .number 5 := by
  have hp : parse? "shelf[ 0 ]".toList = some [.key "shelf", .index 0] := by decide +kernel
  have htrim : trim "shelf[ 0 ]".toList = "shelf[ 0 ]".toList := by decide +kernel
  have hname : IsKey "x".toList := .of_all (by decide) (by decide +kernel)
  have hsplit := lookup_split shelfScope hp htrim writable_secondLength
  have hfive : shelfScope.lookup "shelf[ 0 ][1][1].length".toList = .number 5 := by
    with_unfolding_all rfl
  exact ⟨hp, htrim, hname, writable_secondLength, (hsplit.1 _ hname).symm,
    (hsplit.2 1 (by decide)).trans hfive⟩

end Scope

end ViewTree
