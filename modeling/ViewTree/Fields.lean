/-!
# Fields — named entries

Records, scopes, props, handlers and the cache are all tables of named entries.  `Fields` keeps
the entries in ascending order of their names, each name once, so equal tables are equal lists and
a table is written in the order of its names.

* `get?`: a table is seen through the entries of its names; `get?_insert`, `get?_erase` and
  `get?_ofList` say what they are afterwards.
* `ordered_ofList`: the tables that `ofList` makes are in order.
-/

namespace ViewTree

/-- Named entries in ascending order of their names. -/
abbrev Fields (α : Type) := List (String × α)

namespace Fields

variable {α β : Type}

/-- The entry of a name. -/
def get? : Fields α → String → Option α
  | [], _ => none
  | (k, v) :: fs, name => if k = name then some v else get? fs name

/-- Whether a name has an entry. -/
def contains (fs : Fields α) (name : String) : Bool :=
  (get? fs name).isSome

/-- Gives a name an entry, in place of the one it had. -/
def insert (name : String) (value : α) : Fields α → Fields α
  | [] => [(name, value)]
  | (k, v) :: fs =>
    if name < k then (name, value) :: (k, v) :: fs
    else if name = k then (name, value) :: fs
    else (k, v) :: insert name value fs

/-- Takes the entries of a name away. -/
def erase (name : String) (fs : Fields α) : Fields α :=
  fs.filter fun f => f.1 ≠ name

/-- Adds entries one after the other. -/
def insertAll (bindings : List (String × α)) (fs : Fields α) : Fields α :=
  bindings.foldl (fun fs b => insert b.1 b.2 fs) fs

/-- The table of some entries; of two with one name the later one stays. -/
def ofList (bindings : List (String × α)) : Fields α :=
  insertAll bindings []

/-- The names that have an entry. -/
def keys (fs : Fields α) : List String :=
  fs.map (·.1)

/-- A table is ordered when each name comes before all later ones. -/
def Ordered (fs : Fields α) : Prop :=
  fs.Pairwise fun f g => f.1 < g.1

/-! ### What an update does to the entry of a name -/

@[simp] theorem get?_nil (name : String) : get? ([] : Fields α) name = none := rfl

theorem get?_cons (k name : String) (v : α) (fs : Fields α) :
    get? ((k, v) :: fs) name = if k = name then some v else get? fs name := rfl

theorem get?_insert (name other : String) (value : α) (fs : Fields α) :
    get? (insert name value fs) other = if name = other then some value else get? fs other := by
  induction fs with
  | nil => rfl
  | cons f fs ih =>
    obtain ⟨k, v⟩ := f
    rw [insert]
    split
    · rfl
    · split
      · next h => subst h; simp only [get?_cons]; split <;> rfl
      · next h =>
        simp only [get?_cons, ih]
        split
        · next hk => subst hk; rw [if_neg h]
        · rfl

theorem get?_erase (name other : String) (fs : Fields α) :
    get? (erase name fs) other = if name = other then none else get? fs other := by
  induction fs with
  | nil => simp [erase]
  | cons f fs ih =>
    obtain ⟨k, v⟩ := f
    simp only [erase] at ih ⊢
    by_cases hk : k = name
    · subst hk
      rw [List.filter_cons_of_neg (by simp), ih, get?_cons]
      split <;> rfl
    · rw [List.filter_cons_of_pos (by simpa using hk), get?_cons, ih, get?_cons]
      by_cases ho : k = other
      · subst ho; rw [if_pos rfl, if_neg (Ne.symm hk), if_pos rfl]
      · rw [if_neg ho, if_neg ho]

theorem get?_append (fs gs : Fields α) (name : String) :
    get? (fs ++ gs) name = (get? fs name).or (get? gs name) := by
  induction fs with
  | nil => rfl
  | cons f fs ih =>
    obtain ⟨k, v⟩ := f
    rw [List.cons_append, get?_cons, get?_cons, ih]
    split <;> rfl

theorem get?_insertAll (bindings : List (String × α)) (fs : Fields α) (name : String) :
    get? (insertAll bindings fs) name = (get? bindings.reverse name).or (get? fs name) := by
  induction bindings generalizing fs with
  | nil => rfl
  | cons b bs ih =>
    obtain ⟨k, v⟩ := b
    have h : insertAll ((k, v) :: bs) fs = insertAll bs (insert k v fs) := rfl
    rw [h, ih, List.reverse_cons, get?_append, get?_insert, Option.or_assoc, get?_cons, get?_nil]
    congr 1
    split <;> rfl

/-- Of several bindings of one name the last one counts. -/
theorem get?_ofList (bindings : List (String × α)) (name : String) :
    get? (ofList bindings) name = get? bindings.reverse name := by
  rw [ofList, get?_insertAll, get?_nil, Option.or_none]

theorem get?_eq_none_iff {fs : Fields α} {name : String} :
    get? fs name = none ↔ ∀ f ∈ fs, f.1 ≠ name := by
  induction fs with
  | nil => simp
  | cons f fs ih =>
    obtain ⟨k, v⟩ := f
    rw [get?_cons, List.forall_mem_cons]
    split
    · next hk => simp [hk]
    · next hk => simp [hk, ih]

theorem mem_of_get?_eq_some {fs : Fields α} {name : String} {v : α} (h : get? fs name = some v) :
    (name, v) ∈ fs := by
  induction fs with
  | nil => exact nomatch h
  | cons f fs ih =>
    obtain ⟨k, w⟩ := f
    rw [get?_cons] at h
    split at h
    · next hk => subst hk; cases h; exact .head _
    · exact .tail _ (ih h)

theorem erase_eq_self {fs : Fields α} {name : String} (h : get? fs name = none) :
    erase name fs = fs :=
  List.filter_eq_self.2 fun f hf => by simpa using get?_eq_none_iff.1 h f hf

/-- A name that had no entry loses the one it got. -/
theorem erase_insert {fs : Fields α} {name : String} (h : get? fs name = none) (value : α) :
    erase name (insert name value fs) = fs := by
  induction fs with
  | nil => simp [insert, erase]
  | cons f fs ih =>
    obtain ⟨k, v⟩ := f
    have hk : k ≠ name := get?_eq_none_iff.1 h (k, v) List.mem_cons_self
    have hfs : get? fs name = none := by rwa [get?_cons, if_neg hk] at h
    have keep : ∀ gs : Fields α, erase name ((k, v) :: gs) = (k, v) :: erase name gs :=
      fun gs => List.filter_cons_of_pos (by simpa using hk)
    rw [insert]
    split
    · have drop : erase name ((name, value) :: (k, v) :: fs) = erase name ((k, v) :: fs) :=
        List.filter_cons_of_neg (by simp)
      rw [drop, erase_eq_self h]
    · rw [if_neg (Ne.symm hk), keep, ih hfs]

/-! ### The order of a table -/

theorem mem_insert {f : String × α} {name : String} {value : α} {fs : Fields α}
    (h : f ∈ insert name value fs) : f = (name, value) ∨ f ∈ fs := by
  induction fs with
  | nil => exact .inl (List.mem_singleton.1 h)
  | cons g fs ih =>
    obtain ⟨k, v⟩ := g
    rw [insert] at h
    split at h
    · exact List.mem_cons.1 h
    · split at h
      · exact (List.mem_cons.1 h).imp_right (List.mem_cons_of_mem _)
      · rcases List.mem_cons.1 h with rfl | h
        · exact .inr (.head _)
        · exact (ih h).imp_right (List.mem_cons_of_mem _)

theorem Ordered.insert {fs : Fields α} (h : Ordered fs) (name : String) (value : α) :
    Ordered (fs.insert name value) := by
  induction fs with
  | nil => exact List.pairwise_singleton _ _
  | cons f fs ih =>
    obtain ⟨k, v⟩ := f
    obtain ⟨hk, hfs⟩ := List.pairwise_cons.1 h
    rw [Fields.insert]
    split
    · next hlt =>
      refine List.pairwise_cons.2 ⟨fun g hg => ?_, h⟩
      rcases List.mem_cons.1 hg with rfl | hg
      · exact hlt
      · exact String.lt_trans hlt (hk g hg)
    · next hlt =>
      split
      · next heq => subst heq; exact List.pairwise_cons.2 ⟨hk, hfs⟩
      · next hne =>
        refine List.pairwise_cons.2 ⟨fun g hg => ?_, ih hfs⟩
        rcases mem_insert hg with rfl | hg
        · exact Std.lt_of_le_of_ne (Std.not_lt.1 hlt) (Ne.symm hne)
        · exact hk g hg

theorem Ordered.insertAll {fs : Fields α} (h : Ordered fs) (bindings : List (String × α)) :
    Ordered (fs.insertAll bindings) := by
  induction bindings generalizing fs with
  | nil => exact h
  | cons b bs ih => exact ih (h.insert b.1 b.2)

theorem ordered_ofList (bindings : List (String × α)) : Ordered (ofList bindings) :=
  Ordered.insertAll List.Pairwise.nil bindings

/-- Dropping entries keeps the order. -/
theorem Ordered.filter {fs : Fields α} (h : Ordered fs) (p : String × α → Bool) :
    Ordered (List.filter p fs) :=
  List.Pairwise.filter p h

/-- Changing the entries but not their names keeps the order. -/
theorem Ordered.of_keys_eq {fs : Fields α} {gs : Fields β} (h : Ordered fs)
    (hk : gs.keys = fs.keys) : Ordered gs := by
  have hfs : (keys fs).Pairwise (· < ·) := List.pairwise_map.2 h
  rw [← hk] at hfs
  exact List.pairwise_map.1 hfs

end Fields

end ViewTree
