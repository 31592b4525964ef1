import Mathlib.Data.List.Nodup
import ViewTree.Data.Client

/-!
# Data — what a store keeps of its changes

A store in memory is a list in which records are replaced in place.  Seen from its history, in which
the latest change stands first, it is a table in the order in which its ids came in: an id comes in
when it is saved while it is absent (`arrival`), and from then on, until it is deleted, it has the
record that was saved last (`saved`) with a version that counts the replacements.

* `find?_save`, `find?_delete`, `ids_save`, `ids_delete`: what one change does to each id and to the
  order of the ids.
* `answers_after`, `pairwise_arrival_after`: what a whole history leaves.
* `selects_iff`: which records a query admits.
* `after_ordered`: the store against its history.
-/

namespace ViewTree

/-! ### What a query admits -/

/-- A record has what a query asks for. -/
structure Query.Admits (q : Query) (r : Record) : Prop where
  tag : ∀ t, q.tag = some t → t ∈ r.tags
  allTags : ∀ t ∈ q.allTags, t ∈ r.tags
  /-- One of the tags, if any are given. -/
  anyTags : q.anyTags = [] ∨ ∃ t ∈ q.anyTags, t ∈ r.tags
  schemaName : ∀ name, q.schemaName = some name → r.schemaName = some name

theorem Query.selects_iff {q : Query} {r : Record} : q.selects r = true ↔ q.Admits r := by
  simp only [selects, Bool.and_eq_true, Bool.or_eq_true, Option.all_eq_true, List.isEmpty_iff,
    List.any_eq_true, List.all_eq_true, List.contains_iff_mem, beq_iff_eq]
  constructor
  · rintro ⟨⟨⟨htag, hschema⟩, hany⟩, hall⟩
    exact ⟨htag, hall, hany, hschema⟩
  · rintro ⟨htag, hall, hany, hschema⟩
    exact ⟨⟨⟨htag, hschema⟩, hany⟩, hall⟩

namespace Store

/-- The ids of the records, in their order. -/
def ids (s : Store) : List String :=
  s.records.map Record.id

/-! ### One change -/

/-- A record that is saved is found under its id, with the version after that of the record that
it replaces. -/
theorem find?_save (s : Store) (r : Record) (id : String) :
    (s.save r).find? id =
      if r.id = id then
        match s.find? id with
        | some old => some { r with version := old.version + 1 }
        | none => some r
      else s.find? id := by
  obtain ⟨records⟩ := s
  simp only [save, find?]
  induction records with
  | nil =>
      rw [put, List.find?_cons]
      by_cases h : r.id = id <;> simp [h]
  | cons old rs ih =>
      rw [put]
      by_cases hold : old.id = r.id
      · rw [if_pos hold, List.find?_cons, List.find?_cons]
        by_cases h : r.id = id <;> simp [h, hold]
      · rw [if_neg hold, List.find?_cons, List.find?_cons, ih]
        by_cases ho : old.id = id
        · have hr : r.id ≠ id := fun h => hold (ho.trans h.symm)
          simp [ho, hr]
        · simp [ho]

theorem find?_delete (s : Store) (other id : String) :
    (s.delete other).find? id = if other = id then none else s.find? id := by
  simp only [delete, find?, List.find?_filter]
  by_cases h : other = id
  · subst h
    simp
  · rw [if_neg h]
    congr 1
    funext r
    by_cases hr : r.id = id
    · simp [hr, Ne.symm h]
    · simp [hr]

theorem find?_eq_none_iff {s : Store} {id : String} : s.find? id = none ↔ id ∉ s.ids := by
  simp [find?, ids]

theorem map_id_put (r : Record) (rs : List Record) :
    (put r rs).map Record.id =
      if r.id ∈ rs.map Record.id then rs.map Record.id else rs.map Record.id ++ [r.id] := by
  induction rs with
  | nil => rfl
  | cons old rs ih =>
      rw [put]
      by_cases hold : old.id = r.id
      · simp [hold]
      · rw [if_neg hold, List.map_cons, ih]
        by_cases hm : r.id ∈ rs.map Record.id <;> simp [hm, Ne.symm hold]

/-- A record that is saved keeps the place of its id, or comes last. -/
theorem ids_save (s : Store) (r : Record) :
    (s.save r).ids = if r.id ∈ s.ids then s.ids else s.ids ++ [r.id] :=
  map_id_put r s.records

theorem ids_delete (s : Store) (id : String) :
    (s.delete id).ids = s.ids.filter fun other => other ≠ id := by
  rw [ids, ids, delete, List.filter_map]
  rfl

/-! ### Histories -/

/-- A change of a store. -/
inductive Change where
  | save (r : Record)
  | delete (id : String)

/-- The store after some changes of an empty one, the latest change first. -/
def after : List Change → Store
  | [] => empty
  | .save r :: earlier => (after earlier).save r
  | .delete id :: earlier => (after earlier).delete id

/-- The records that were saved under an id since it was last absent, the latest one first. -/
def saved (id : String) : List Change → List Record
  | [] => []
  | .save r :: earlier => if r.id = id then r :: saved id earlier else saved id earlier
  | .delete other :: earlier => if other = id then [] else saved id earlier

/-- When an id came in last: how many changes there were before it was saved while it was absent. -/
def arrival (id : String) : List Change → Nat
  | [] => 0
  | .save r :: earlier =>
    if r.id = id ∧ (saved id earlier).isEmpty then earlier.length else arrival id earlier
  | .delete _ :: earlier => arrival id earlier

/-- No record was replaced that had the last version there is. -/
def InRange : List Change → Prop
  | [] => True
  | .save r :: earlier =>
    InRange earlier ∧ ∀ old, (after earlier).find? r.id = some old → old.version ≠ Int64.maxValue
  | .delete _ :: earlier => InRange earlier

/-! ### Which record an id has -/

/-- What a history says that an id has: nothing, or the record that was saved last, with the version
that the id came in with and one more for each replacement. -/
def Answers (history : List Change) (id : String) : Option Record → Prop
  | none => saved id history = []
  | some r => ∃ latest older, saved id history = latest :: older ∧
      r = { latest with version := r.version } ∧
      r.version.toInt = (older.getLastD latest).version.toInt + older.length

/-- What an id has is left as it is by a change of another one. -/
theorem Answers.of_saved_eq {history later : List Change} {id : String} {found : Option Record}
    (h : Answers history id found) (hsame : saved id later = saved id history) :
    Answers later id found := by
  cases found with
  | none => exact hsame.trans h
  | some r =>
      obtain ⟨latest, older, hsaved, hrest⟩ := h
      exact ⟨latest, older, hsame.trans hsaved, hrest⟩

theorem toInt_add_one {v : Int64} (h : v ≠ Int64.maxValue) : (v + 1).toInt = v.toInt + 1 := by
  have hlow := Int64.le_toInt v
  have hhigh := Int64.toInt_lt v
  have hne : v.toInt ≠ 2 ^ 63 - 1 := fun he => h (Int64.toInt_inj.1 he)
  rw [Int64.toInt_add, Int64.toInt_one, Int.bmod_eq_of_le] <;> omega

theorem answers_save {history : List Change} {r : Record} {id : String}
    (hrange : ∀ old, (after history).find? r.id = some old → old.version ≠ Int64.maxValue)
    (h : Answers history id ((after history).find? id)) :
    Answers (.save r :: history) id (((after history).save r).find? id) := by
  rw [find?_save]
  by_cases hid : r.id = id
  · rw [if_pos hid]
    cases hf : (after history).find? id with
    | none =>
        rw [hf] at h
        exact ⟨r, [], by rw [saved, if_pos hid, show saved id history = [] from h], rfl, by simp⟩
    | some old =>
        rw [hf] at h
        obtain ⟨latest, older, hsaved, -, hversion⟩ := h
        refine ⟨r, latest :: older, by rw [saved, if_pos hid, hsaved], rfl, ?_⟩
        have hone := toInt_add_one (hrange old (hid ▸ hf))
        rw [List.getLastD_cons, List.length_cons]
        show (old.version + 1).toInt = _
        omega
  · rw [if_neg hid]
    exact h.of_saved_eq (by rw [saved, if_neg hid])

theorem answers_delete {history : List Change} {other id : String}
    (h : Answers history id ((after history).find? id)) :
    Answers (.delete other :: history) id (((after history).delete other).find? id) := by
  rw [find?_delete]
  by_cases hid : other = id
  · rw [if_pos hid]
    show saved id (.delete other :: history) = []
    rw [saved, if_pos hid]
  · rw [if_neg hid]
    exact h.of_saved_eq (by rw [saved, if_neg hid])

/-- **Each id has what its history says.** -/
theorem answers_after {history : List Change} (hr : InRange history) (id : String) :
    Answers history id ((after history).find? id) := by
  induction history with
  | nil => rfl
  | cons c earlier ih =>
      cases c with
      | save r => exact answers_save hr.2 (ih hr.1)
      | delete other => exact answers_delete (ih hr)

theorem mem_ids_iff {history : List Change} (hr : InRange history) {id : String} :
    id ∈ (after history).ids ↔ saved id history ≠ [] := by
  have h := answers_after hr id
  rw [← not_iff_not, ← find?_eq_none_iff, not_not]
  cases hf : (after history).find? id with
  | none =>
      rw [hf] at h
      exact ⟨fun _ => h, fun _ => rfl⟩
  | some r =>
      rw [hf] at h
      obtain ⟨latest, older, hsaved, -⟩ := h
      rw [hsaved]
      exact ⟨nofun, nofun⟩

/-! ### In which order the ids stand -/

/-- An id that is present came in at one of the changes. -/
theorem arrival_lt {history : List Change} {id : String} (h : saved id history ≠ []) :
    arrival id history < history.length := by
  induction history with
  | nil => exact absurd rfl h
  | cons c earlier ih =>
      refine Nat.lt_succ_of_le ?_
      cases c with
      | save r =>
          rw [arrival]
          split
          · exact Nat.le_refl _
          · next hnew =>
              refine Nat.le_of_lt (ih fun hnil => ?_)
              by_cases hid : r.id = id
              · exact hnew ⟨hid, by rw [hnil]; rfl⟩
              · rw [saved, if_neg hid] at h
                exact h hnil
      | delete other =>
          refine Nat.le_of_lt (ih fun hnil => h ?_)
          rw [saved, hnil, ite_self]

/-- An id that is present keeps its arrival when a record is saved. -/
theorem arrival_save {history : List Change} {id : String} (h : saved id history ≠ [])
    (r : Record) : arrival id (.save r :: history) = arrival id history := by
  rw [arrival, if_neg]
  exact fun hnew => h (List.isEmpty_iff.1 hnew.2)

/-- **The ids stand in the order of their arrivals.** -/
theorem pairwise_arrival_after {history : List Change} (hr : InRange history) :
    (after history).ids.Pairwise fun a b => arrival a history < arrival b history := by
  induction history with
  | nil => exact .nil
  | cons c earlier ih =>
      cases c with
      | save r =>
          have hpresent : ∀ id ∈ (after earlier).ids, saved id earlier ≠ [] :=
            fun id hm => (mem_ids_iff hr.1).1 hm
          have hkept : (after earlier).ids.Pairwise fun a b =>
              arrival a (.save r :: earlier) < arrival b (.save r :: earlier) := by
            refine (ih hr.1).imp_of_mem fun {a b} ha hb hlt => ?_
            rwa [arrival_save (hpresent a ha), arrival_save (hpresent b hb)]
          rw [after, ids_save]
          split
          · exact hkept
          · next hnew =>
              refine List.pairwise_append.2 ⟨hkept, List.pairwise_singleton _ _, ?_⟩
              intro a ha b hb
              -- the new id arrives now, after everything that is present
              have habsent : saved r.id earlier = [] :=
                not_not.1 fun hne => hnew ((mem_ids_iff hr.1).2 hne)
              obtain rfl := List.mem_singleton.1 hb
              rw [arrival_save (hpresent a ha), arrival, if_pos ⟨rfl, by rw [habsent]; rfl⟩]
              exact arrival_lt (hpresent a ha)
      | delete id =>
          rw [after, ids_delete]
          exact (ih hr).sublist List.filter_sublist

theorem nodup_ids_after {history : List Change} (hr : InRange history) :
    (after history).ids.Nodup := by
  refine (pairwise_arrival_after hr).imp ?_
  rintro id _ hlt rfl
  exact Nat.lt_irrefl _ hlt

/-! ### What a client finds -/

/-- Where no id stands twice, each record is what its id has. -/
theorem find?_of_mem {s : Store} (hnodup : s.ids.Nodup) {r : Record} (h : r ∈ s.records) :
    s.find? r.id = some r := by
  cases hf : s.find? r.id with
  | none => exact absurd (List.mem_map_of_mem h) (find?_eq_none_iff.1 hf)
  | some found =>
      have hid : found.id = r.id := by simpa using List.find?_some hf
      rw [List.inj_on_of_nodup_map hnodup (List.mem_of_find?_eq_some hf) h hid]

/-- **A store is a table in the order in which its ids came in.**  After any history of saves and
deletes of an empty store, in which no version runs over: no id stands twice; the ids that are
present stand in the order of their arrivals; an id has the record that was saved last, with the
version that it came in with and one more for each replacement since, or is not found; and a query
gives the first records that it admits in that order, up to its limit, each of which is what its id
has. -/
theorem after_ordered (history : List Change) (hr : InRange history) :
    (after history).ids.Nodup ∧
    (∀ id, id ∈ (after history).ids ↔ saved id history ≠ []) ∧
    ((after history).ids.Pairwise fun a b => arrival a history < arrival b history) ∧
    (∀ id, saved id history = [] →
      Store.client.find id (after history) = (.refused (.noRecord id), after history)) ∧
    (∀ id latest older, saved id history = latest :: older → ∃ version : Int64,
      version.toInt = (older.getLastD latest).version.toInt + older.length ∧
        Store.client.find id (after history) =
          (.answer { latest with version := version }, after history)) ∧
    ∀ q : Query, ∃ admitted : List Record, admitted.Sublist (after history).records ∧
      (∀ r, r ∈ admitted ↔ r ∈ (after history).records ∧ q.Admits r) ∧
      Store.client.select q (after history) =
        (.answer (admitted.take q.limit.toNat), after history) ∧
      ∀ r ∈ admitted, Store.client.find r.id (after history) = (.answer r, after history) := by
  have hnodup := nodup_ids_after hr
  refine ⟨hnodup, fun id => mem_ids_iff hr, pairwise_arrival_after hr, ?_, ?_, ?_⟩
  · intro id hnil
    have hf : (after history).find? id = none :=
      find?_eq_none_iff.2 fun hm => (mem_ids_iff hr).1 hm hnil
    simp only [Store.client, hf]
  · intro id latest older hsaved
    have h := answers_after hr id
    cases hf : (after history).find? id with
    | none =>
        rw [hf] at h
        cases hsaved.symm.trans h
    | some r =>
        rw [hf] at h
        obtain ⟨latest', older', hsaved', hrecord, hversion⟩ := h
        cases hsaved.symm.trans hsaved'
        refine ⟨r.version, hversion, ?_⟩
        simp only [Store.client, hf, ← hrecord]
  · intro q
    refine ⟨(after history).records.filter q.selects, List.filter_sublist, fun r => ?_, rfl, ?_⟩
    · rw [List.mem_filter, Query.selects_iff]
    · intro r hm
      simp only [Store.client, find?_of_mem hnodup (List.mem_filter.1 hm).1]

/-- A record comes in before another one, which is replaced twice; the first is deleted and comes in
again. -/
def returned : List Change :=
  [.save (.create "a" "back"), .save (.create "b" "third"), .delete "a",
    .save (.create "b" "second"), .save (.create "b" "first"), .save (.create "a" "early")]

theorem inRange_returned : InRange returned := by
  simp only [returned, InRange]
  decide

theorem after_ordered_returned :
    InRange returned ∧ (after returned).ids = ["b", "a"] ∧
    arrival "b" returned < arrival "a" returned ∧
    (∃ version : Int64, version.toInt = 3 ∧
      Store.client.find "b" (after returned) =
        (.answer { Record.create "b" "third" with version := version }, after returned)) ∧
    Store.client.find "c" (after returned) = (.refused (.noRecord "c"), after returned) := by
  obtain ⟨-, -, horder, habsent, hpresent, -⟩ := after_ordered returned inRange_returned
  have hids : (after returned).ids = ["b", "a"] := by decide
  rw [hids] at horder
  have hb : saved "b" returned =
      [.create "b" "third", .create "b" "second", .create "b" "first"] := by rfl
  exact ⟨inRange_returned, hids, (List.pairwise_cons.1 horder).1 "a" (.head _),
    hpresent "b" _ _ hb, habsent "c" rfl⟩

end Store

end ViewTree
