import ViewTree.Proofs.Data.Arrivals

/-!
# Data — versions of a record

A record that is saved over another one gets the version after it.  That is a later version, unless
the one before was the last there is, which the first one follows (`version_save`).  So versions
grow with each replacement, whatever other changes there are, as long as they stay in range
(`version_changed`).
-/

namespace ViewTree.Store

/-! ### One replacement -/

theorem lt_add_one_iff {v : Int64} : v < v + 1 ↔ v ≠ Int64.maxValue := by
  constructor
  · rintro hlt rfl
    revert hlt
    decide
  · intro hne
    rw [Int64.lt_iff_toInt_lt, toInt_add_one hne]
    exact Int.lt_succ v.toInt

/-- A record that is saved over another one has the version after it. -/
theorem find?_save_of_some {s : Store} {r old : Record} (h : s.find? r.id = some old) :
    (s.save r).find? r.id = some { r with version := old.version + 1 } := by
  rw [find?_save, if_pos rfl, h]

/-- **A replacement has a later version, unless there is none.**  Whatever a store holds, a record
that is saved over another one is found under its id with a version of its own; that version is
greater than the one before exactly when the one before was not the last version, and is the first
version otherwise. -/
theorem version_save {s : Store} {r old : Record} (h : s.find? r.id = some old) :
    ∃ version : Int64, (s.save r).find? r.id = some { r with version := version } ∧
      (old.version < version ↔ old.version ≠ Int64.maxValue) ∧
      (old.version = Int64.maxValue → version = Int64.minValue) := by
  refine ⟨old.version + 1, find?_save_of_some h, lt_add_one_iff, fun hlast => ?_⟩
  rw [hlast]
  decide

/-- Two records with one id, the first of which has the version before the last. -/
def lateStore : Store :=
  ⟨[{ Record.create "a" "early" with version := 9223372036854775806 }, .create "a" "shadowed"]⟩

/-- The first of them is replaced, and by the last version. -/
theorem version_save_lateStore :
    lateStore.find? "a" =
        some { Record.create "a" "early" with version := 9223372036854775806 } ∧
      ∃ version : Int64,
        (lateStore.save (.create "a" "late")).find? "a" =
          some { Record.create "a" "late" with version := version } ∧
        (9223372036854775806 : Int64) < version := by
  have h : lateStore.find? (Record.create "a" "late").id =
      some { Record.create "a" "early" with version := 9223372036854775806 } := rfl
  obtain ⟨version, hfound, hgrows, -⟩ := version_save h
  exact ⟨h, version, hfound, hgrows.2 (by decide)⟩

/-- The document of a record in the last version. -/
def lastDocument : Json :=
  .object [("id", .text "a"), ("version", .int 9223372036854775807)]

/-- A record can be read whose replacement has an earlier version. -/
theorem not_version_grows_last :
    ∃ last, Record.ofJson lastDocument = .ok last ∧
      (Store.mk [last]).find? (Record.create "a" "next").id = some last ∧
      ∃ next, ((Store.mk [last]).save (.create "a" "next")).find? "a" = some next ∧
        ¬ last.version < next.version := by
  refine ⟨{ Record.create "a" "" with payload := .undefined, version := Int64.maxValue }, rfl, rfl,
    { Record.create "a" "next" with version := Int64.minValue }, rfl, by decide⟩

/-! ### Any changes -/

/-- The store after a change. -/
def change (s : Store) : Change → Store
  | .save r => s.save r
  | .delete id => s.delete id

/-- The store after some changes, the earliest change first. -/
def changed (s : Store) (changes : List Change) : Store :=
  changes.foldl change s

theorem changed_reverse (history : List Change) :
    empty.changed history.reverse = after history := by
  induction history with
  | nil => rfl
  | cons c earlier ih =>
      rw [changed] at ih ⊢
      rw [List.reverse_cons, List.foldl_append, ih]
      cases c <;> rfl

/-- Whether a change saves a record under an id. -/
def Change.saves (id : String) : Change → Bool
  | .save r => r.id == id
  | .delete _ => false

/-- What a change that does not delete an id makes of its record. -/
theorem find?_change {s : Store} {id : String} {old : Record} (h : s.find? id = some old)
    {c : Change} (hc : c ≠ .delete id) :
    ∃ new, (s.change c).find? id = some new ∧
      new.version = if c.saves id then old.version + 1 else old.version := by
  cases c with
  | save r =>
      by_cases hid : r.id = id
      · subst hid
        exact ⟨_, find?_save_of_some h, by simp [Change.saves]⟩
      · refine ⟨old, ?_, by simp [Change.saves, hid]⟩
        rw [change, find?_save, if_neg hid, h]
  | delete other =>
      have hne : other ≠ id := fun he => hc (he ▸ rfl)
      refine ⟨old, ?_, rfl⟩
      rw [change, find?_delete, if_neg hne, h]

/-- **Versions count the replacements.**  Where some changes of a store do not delete an id, it has
a record after them, and its version has grown by one for each of them that saved a record under
that id, if that is no more than there are versions left. -/
theorem version_changed {s : Store} {id : String} {old : Record} (h : s.find? id = some old)
    {changes : List Change} (hkept : ∀ c ∈ changes, c ≠ .delete id)
    (hrange : old.version.toInt + changes.countP (Change.saves id) ≤ Int64.maxValue.toInt) :
    ∃ new, (s.changed changes).find? id = some new ∧
      new.version.toInt = old.version.toInt + changes.countP (Change.saves id) := by
  induction changes generalizing s old with
  | nil => exact ⟨old, h, by simp⟩
  | cons c changes ih =>
      obtain ⟨hc, hrest⟩ := List.forall_mem_cons.1 hkept
      obtain ⟨next, hnext, hversion⟩ := find?_change h hc
      rw [List.countP_cons] at hrange ⊢
      have hone : next.version.toInt =
          old.version.toInt + ((if c.saves id then 1 else 0 : Nat) : Int) := by
        rw [hversion]
        by_cases hsaves : c.saves id = true
        · rw [if_pos hsaves] at hrange
          rw [if_pos hsaves, if_pos hsaves]
          refine toInt_add_one fun hlast => ?_
          rw [hlast] at hrange
          omega
        · rw [if_neg hsaves, if_neg hsaves]
          exact (Int.add_zero _).symm
      obtain ⟨new, hnew, hmore⟩ := ih hnext hrest (by omega)
      exact ⟨new, hnew, by omega⟩

end ViewTree.Store
