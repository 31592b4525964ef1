/-!
# Names — sets of names

A set of names is a list in ascending order without repetition, so equal sets are equal lists.
`Names.ofList` puts any list of names in order, and `mem_ofList` says that it keeps them all.
-/

namespace ViewTree

/-- A set of names. -/
structure Names where
  /-- The names in ascending order. -/
  toList : List String
  /-- Each name comes before all later ones. -/
  ascending : toList.Pairwise (· < ·)

namespace Names

/-- Puts a name into its place unless it is there. -/
def insertList (name : String) : List String → List String
  | [] => [name]
  | n :: ns =>
    if name < n then name :: n :: ns
    else if name = n then n :: ns
    else n :: insertList name ns

theorem mem_insertList {name other : String} {ns : List String} :
    other ∈ insertList name ns ↔ other = name ∨ other ∈ ns := by
  induction ns with
  | nil => simp [insertList]
  | cons n ns ih =>
    rw [insertList]
    split
    · simp
    · split
      · next h => subst h; simp
      · simp only [List.mem_cons, ih]
        constructor
        · rintro (h | h | h) <;> simp [h]
        · rintro (h | h | h) <;> simp [h]

theorem ascending_insertList {name : String} {ns : List String} (h : ns.Pairwise (· < ·)) :
    (insertList name ns).Pairwise (· < ·) := by
  induction ns with
  | nil => simp [insertList]
  | cons n ns ih =>
    rw [insertList]
    split
    · next hlt =>
      refine List.pairwise_cons.2 ⟨fun m hm => ?_, h⟩
      rcases List.mem_cons.1 hm with rfl | hm
      · exact hlt
      · exact String.lt_trans hlt ((List.pairwise_cons.1 h).1 m hm)
    · split
      · exact h
      · next hlt hne =>
        have hgt : n < name := Std.lt_of_le_of_ne (Std.not_lt.1 hlt) (Ne.symm hne)
        refine List.pairwise_cons.2 ⟨fun m hm => ?_, ih (List.pairwise_cons.1 h).2⟩
        rcases mem_insertList.1 hm with rfl | hm
        · exact hgt
        · exact (List.pairwise_cons.1 h).1 m hm

/-- The set without names. -/
def empty : Names := ⟨[], List.Pairwise.nil⟩

/-- The set with one more name. -/
def insert (name : String) (ns : Names) : Names :=
  ⟨insertList name ns.toList, ascending_insertList ns.ascending⟩

/-- The set of the names in a list. -/
def ofList (names : List String) : Names :=
  names.foldl (fun ns n => ns.insert n) empty

instance : Membership String Names where
  mem ns name := name ∈ ns.toList

instance (name : String) (ns : Names) : Decidable (name ∈ ns) :=
  inferInstanceAs (Decidable (name ∈ ns.toList))

@[simp] theorem not_mem_empty {name : String} : ¬ name ∈ empty := List.not_mem_nil

@[simp] theorem mem_insert {name other : String} {ns : Names} :
    other ∈ ns.insert name ↔ other = name ∨ other ∈ ns :=
  mem_insertList

@[simp] theorem mem_ofList {name : String} {names : List String} :
    name ∈ ofList names ↔ name ∈ names := by
  suffices h : ∀ ns : Names, name ∈ names.foldl (fun ns n => ns.insert n) ns ↔
      name ∈ names ∨ name ∈ ns by
    simpa [ofList] using h empty
  intro ns
  induction names generalizing ns with
  | nil => simp
  | cons n names ih =>
    rw [List.foldl_cons, ih, mem_insert, List.mem_cons]
    constructor
    · rintro (h | h | h) <;> simp [h]
    · rintro ((h | h) | h) <;> simp [h]

end Names

end ViewTree
