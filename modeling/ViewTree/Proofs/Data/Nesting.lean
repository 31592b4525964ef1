import Mathlib.Data.List.Perm.Basic
import ViewTree.Proofs.Data.Keys

/-!
# Data — queries among the props and in a record of their own

A query is read from the entries that have the name of one of its fields, and from no others
(`Query.ofJson_filter`).  So it makes no difference whether its fields stand among the other props
of a loader or in a record of their own, nor what else stands beside them (`ofProps_nested`): the
request is the same, or the first fault is.
-/

namespace ViewTree

namespace Fields

variable {α : Type}

theorem get?_filter_name (p : String → Bool) (fs : Fields α) (name : String) :
    get? (fs.filter fun f => p f.1) name = if p name then get? fs name else none := by
  induction fs with
  | nil => exact (ite_self none).symm
  | cons f fs ih =>
      obtain ⟨k, v⟩ := f
      rw [List.filter_cons]
      by_cases hk : k = name
      · subst hk
        by_cases hp : p k = true
        · simp only [hp, if_true, get?_cons]
        · rw [if_neg hp, ih, if_neg hp, if_neg hp]
      · split
        · rw [get?_cons, get?_cons, if_neg hk, if_neg hk, ih]
        · rw [get?_cons, if_neg hk, ih]

theorem Distinct.get?_eq_some_iff {fs : Fields α} (h : Distinct fs) {name : String} {v : α} :
    get? fs name = some v ↔ (name, v) ∈ fs := by
  refine ⟨mem_of_get?_eq_some, fun hm => ?_⟩
  induction fs with
  | nil => cases hm
  | cons f fs ih =>
      obtain ⟨k, w⟩ := f
      obtain ⟨hk, hfs⟩ := distinct_cons.1 h
      rw [get?_cons]
      rcases List.mem_cons.1 hm with heq | hm
      · cases heq
        exact if_pos rfl
      · rw [if_neg fun hkn => get?_eq_none_iff.1 hk _ hm hkn.symm]
        exact ih hfs hm

/-- Tables in order are the same if each name has the same entry. -/
theorem Ordered.ext {fs gs : Fields α} (hf : Ordered fs) (hg : Ordered gs)
    (h : ∀ name, get? fs name = get? gs name) : fs = gs := by
  have hperm : fs.Perm gs := by
    refine (List.perm_ext_iff_of_nodup hf.distinct.of_map hg.distinct.of_map).2 fun f => ?_
    obtain ⟨name, v⟩ := f
    rw [← hf.distinct.get?_eq_some_iff, ← hg.distinct.get?_eq_some_iff, h name]
  refine hperm.eq_of_pairwise (fun f g _ _ hlt hgt => ?_) hf hg
  exact absurd (String.lt_trans hlt hgt) (String.lt_irrefl _)

end Fields

/-! ### Entries that are not read -/

/-- A field is read from the entries with one of its names. -/
theorem Json.field_filter {α : Type} {p : String → Bool} {name : String} {others : List String}
    (hname : p name = true) (hothers : ∀ o ∈ others, p o = true)
    (decode : Json → Except Json.Mismatch α) (entries : List (String × Json)) :
    Json.field name others decode (entries.filter fun e => p e.1) =
      Json.field name others decode entries := by
  have hkept : (entries.filter fun e => p e.1).filter
      (fun e => e.1 == name || others.contains e.1) =
        entries.filter fun e => e.1 == name || others.contains e.1 := by
    rw [List.filter_filter]
    refine List.filter_congr fun e _ => ?_
    by_cases hread : (e.1 == name || others.contains e.1) = true
    · have hp : p e.1 = true := by
        rcases Bool.or_eq_true_iff.1 hread with hn | ho
        · rwa [beq_iff_eq.1 hn]
        · exact hothers e.1 (List.contains_iff_mem.1 ho)
      rw [hp, Bool.and_true]
    · rw [Bool.eq_false_iff.2 hread, Bool.false_and]
  rw [field, hkept, field]

/-- Entries of other names do not count. -/
theorem Query.ofJson_filter {p : String → Bool} (hp : ∀ name ∈ Request.queryProps, p name = true)
    (entries : List (String × Json)) :
    ofJson (.object (entries.filter fun e => p e.1)) = ofJson (.object entries) := by
  have hnone : ∀ o ∈ ([] : List String), p o = true := List.forall_mem_nil _
  have hschema : ∀ o ∈ ["schema"], p o = true :=
    List.forall_mem_singleton.2 (hp "schema" (by decide))
  rw [ofJson, ofJson]
  simp only [Json.asEntries, bind, Except.bind, Json.field_filter (hp "all_tags" (by decide)) hnone,
    Json.field_filter (hp "any_tags" (by decide)) hnone,
    Json.field_filter (hp "limit" (by decide)) hnone,
    Json.field_filter (hp "schema_name" (by decide)) hschema,
    Json.field_filter (hp "tag" (by decide)) hnone]

namespace Request

/-- The props that are fields of a query. -/
def queryPart (props : Fields Value) : Fields Value :=
  props.filter fun p => queryProps.contains p.1

theorem get?_queryPart (props : Fields Value) (name : String) :
    Fields.get? (queryPart props) name =
      if queryProps.contains name then Fields.get? props name else none :=
  Fields.get?_filter_name _ props name

/-- Props that are no fields of a query do not count in it. -/
theorem ofQuery_queryPart (defaultLimit : UInt64) (props : Fields Value) :
    ofQuery defaultLimit (queryPart props) = ofQuery defaultLimit props := by
  let given := props.filter fun f => !f.2.isAbsent
  have hgiven : (queryPart props).filter (fun f => !f.2.isAbsent) = queryPart given :=
    List.filter_comm _ _ props
  have hdocument : Value.fieldsToJson (queryPart given) =
      (Value.fieldsToJson given).filter fun e => queryProps.contains e.1 := by
    rw [Value.fieldsToJson_eq, Value.fieldsToJson_eq, List.filter_map]
    rfl
  have hquery : Query.ofJson (Value.record (queryPart given)).toJson =
      Query.ofJson (Value.record given).toJson := by
    rw [Value.toJson, Value.toJson, hdocument]
    exact Query.ofJson_filter (fun name h => List.contains_iff_mem.2 h) _
  have hlimit : Fields.contains (queryPart given) "limit" = Fields.contains given "limit" := by
    rw [Fields.contains, Fields.contains, get?_queryPart, if_pos (by decide)]
  simp only [ofQuery, hgiven, hquery, hlimit, given]

section

variable {defaultLimit : UInt64} {props : Fields Value}

/-- Without an id and a record for a query, the props are asked for it. -/
theorem ofProps_of_flattened (hid : Fields.get? props "id" = none)
    (hquery : Fields.get? props "query" = none) :
    ofProps defaultLimit props = ofQuery defaultLimit props := by
  rw [ofProps, hid, hquery]
  exact ofQuery_queryPart defaultLimit props

/-- Without an id, the record for a query is asked for it. -/
theorem ofProps_of_nested {fields : Fields Value} (hid : Fields.get? props "id" = none)
    (hquery : Fields.get? props "query" = some (.record fields)) :
    ofProps defaultLimit props = ofQuery defaultLimit fields := by
  rw [ofProps, hid, hquery]

end

/-- Props in order that agree on the fields of a query hold the same query. -/
theorem ofQuery_congr (defaultLimit : UInt64) {props others : Fields Value}
    (hprops : Fields.Ordered props) (hothers : Fields.Ordered others)
    (h : ∀ name ∈ queryProps, Fields.get? props name = Fields.get? others name) :
    ofQuery defaultLimit props = ofQuery defaultLimit others := by
  have hpart : queryPart props = queryPart others := by
    have hordered : Fields.Ordered (queryPart props) := hprops.filter _
    refine hordered.ext (hothers.filter _) fun name => ?_
    rw [get?_queryPart, get?_queryPart]
    split
    · next hname => exact h name (List.contains_iff_mem.1 hname)
    · rfl
  rw [← ofQuery_queryPart, hpart, ofQuery_queryPart]

/-- **It does not count where the fields of a query stand, nor what stands beside them.**  Props
without an id and without a record for a query ask for the same as a record of them does, whatever
limit there is for queries without one: they give the same request, with its key, or the same
fault, with its message.  Others that agree with them on the fields of a query, whatever else they
hold, ask for the same again, in either form. -/
theorem ofProps_nested (defaultLimit : UInt64) {props : Fields Value}
    (hid : Fields.get? props "id" = none) (hquery : Fields.get? props "query" = none) :
    ofProps defaultLimit props = ofProps defaultLimit [("query", .record props)] ∧
    ∀ others : Fields Value, Fields.Ordered props → Fields.Ordered others →
      Fields.get? others "id" = none → Fields.get? others "query" = none →
      (∀ name ∈ queryProps, Fields.get? props name = Fields.get? others name) →
      ofProps defaultLimit props = ofProps defaultLimit others ∧
        ofProps defaultLimit [("query", .record props)] =
          ofProps defaultLimit [("query", .record others)] := by
  have hnested : ∀ fields : Fields Value,
      ofProps defaultLimit [("query", .record fields)] = ofQuery defaultLimit fields :=
    fun fields => ofProps_of_nested rfl rfl
  rw [ofProps_of_flattened hid hquery, hnested]
  refine ⟨rfl, fun others hprops hothers hid' hquery' hagree => ?_⟩
  rw [ofProps_of_flattened hid' hquery', hnested]
  have hsame := ofQuery_congr defaultLimit hprops hothers hagree
  exact ⟨hsame, hsame⟩

/-- The fields of a query of which two cannot be read: its limit, and its schema, given twice. -/
def unreadableProps : Fields Value :=
  [("limit", .bool true), ("schema", .text "s"), ("schema_name", .text "s"), ("tag", .null)]

/-- The same props with a name for the result beside them. -/
def namedProps : Fields Value :=
  ("as", .text "found") :: unreadableProps

theorem get?_namedProps {name : String} (h : name ∈ queryProps) :
    Fields.get? unreadableProps name = Fields.get? namedProps name := by
  have hne : "as" ≠ name := by
    rintro rfl
    revert h
    decide
  rw [namedProps, Fields.get?_cons, if_neg hne]

/-- What is reported in each form is the limit. -/
theorem ofProps_nested_unreadableProps :
    Fields.get? unreadableProps "id" = none ∧ Fields.get? unreadableProps "query" = none ∧
      Fields.Ordered unreadableProps ∧ Fields.Ordered namedProps ∧
      (∀ name ∈ queryProps, Fields.get? unreadableProps name = Fields.get? namedProps name) ∧
      ofProps 10 [("query", .record unreadableProps)] =
        .error (.mismatch (.type (.bool true) .word)) ∧
      ofProps 10 namedProps = .error (.mismatch (.type (.bool true) .word)) ∧
      ofProps 10 [("query", .record namedProps)] =
        .error (.mismatch (.type (.bool true) .word)) := by
  have hfault : ofProps 10 unreadableProps = .error (.mismatch (.type (.bool true) .word)) := rfl
  have hprops : Fields.Ordered unreadableProps := by
    rw [Fields.Ordered, unreadableProps]
    decide
  have hnamed : Fields.Ordered namedProps := by
    rw [Fields.Ordered, namedProps, unreadableProps]
    decide
  have hagree : ∀ name ∈ queryProps,
      Fields.get? unreadableProps name = Fields.get? namedProps name := fun name => get?_namedProps
  have hid : Fields.get? unreadableProps "id" = none := rfl
  have hquery : Fields.get? unreadableProps "query" = none := rfl
  obtain ⟨hnested, hothers⟩ := ofProps_nested 10 hid hquery
  obtain ⟨hflat, hboth⟩ := hothers namedProps hprops hnamed rfl rfl hagree
  rw [← hnested] at hboth
  exact ⟨hid, hquery, hprops, hnamed, hagree, hnested.symm.trans hfault, hflat.symm.trans hfault,
    hboth.symm.trans hfault⟩

end Request

end ViewTree
