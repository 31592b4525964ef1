import ViewTree.Proofs.Calc.Paths
import ViewTree.Proofs.Data.Nesting

/-!
# Data — criteria that are given

The tag and the schema of a query are texts.  A value that is given for one of them becomes a
document, and a document other than a text is a mismatch unless it is null.  Null is the document of
what is left out, and also of a number that is not finite (`Value.toJson_eq_null_iff`): so a
criterion that is given is set to just that text, unless it is such a number, which no query holds
it against (`ofProps_criterion`).
-/

namespace ViewTree

/-! ### Fields that were read -/

namespace Json

/-- Where a field was read, each entry with one of its names was. -/
theorem decode_of_field {α : Type} {name : String} {others : List String}
    {decode : Json → Except Mismatch α} {entries : List (String × Json)} {x : Option α}
    (h : field name others decode entries = .ok x) {e : String × Json} (he : e ∈ entries)
    (hname : e.1 = name ∨ e.1 ∈ others) : ∃ a, decode e.2 = .ok a ∧ x = some a := by
  have hread : e ∈ entries.filter fun e => e.1 == name || others.contains e.1 := by
    refine List.mem_filter.2 ⟨he, Bool.or_eq_true_iff.2 ?_⟩
    exact hname.imp beq_iff_eq.2 List.contains_iff_mem.2
  rw [field] at h
  split at h
  · next hnil =>
      rw [hnil] at hread
      cases hread
  · next only hone =>
      rw [hone] at hread
      cases List.mem_singleton.1 hread
      cases hd : decode e.2 with
      | error why =>
          rw [hd] at h
          cases h
      | ok a =>
          rw [hd] at h
          cases h
          exact ⟨a, rfl, rfl⟩
  · obtain ⟨-, -, h⟩ := Calc.exists_of_bind_eq_ok h
    cases h

/-- A text that may be null is nothing else. -/
theorem asOptional_asText_eq_ok {j : Json} {t : Option String}
    (h : asOptional asText j = .ok t) : (j = .null ∧ t = none) ∨ ∃ s, j = .text s ∧ t = some s := by
  cases j with
  | null =>
      cases h
      exact .inl ⟨rfl, rfl⟩
  | text s =>
      cases h
      exact .inr ⟨s, rfl, rfl⟩
  | _ => cases h

end Json

namespace Query

/-- The criteria that are texts. -/
inductive Criterion where
  | tag
  | schema

namespace Criterion

/-- The name that a message shows. -/
def name : Criterion → String
  | tag => "tag"
  | schema => "schema_name"

/-- The other names. -/
def others : Criterion → List String
  | tag => []
  | schema => ["schema"]

/-- What a query holds against a record. -/
def text? (q : Query) : Criterion → Option String
  | tag => q.tag
  | schema => q.schemaName

variable {q : Query} {entries : List (String × Json)}

/-- A query that was read has what was read for the criterion. -/
theorem exists_field (c : Criterion) (h : ofJson (.object entries) = .ok q) :
    ∃ x, Json.field c.name c.others (Json.asOptional Json.asText) entries = .ok x ∧
      c.text? q = x.join := by
  rw [ofJson] at h
  obtain ⟨found, hfound, h⟩ := Calc.exists_of_bind_eq_ok h
  cases hfound
  obtain ⟨allTags, -, h⟩ := Calc.exists_of_bind_eq_ok h
  obtain ⟨anyTags, -, h⟩ := Calc.exists_of_bind_eq_ok h
  obtain ⟨limit, -, h⟩ := Calc.exists_of_bind_eq_ok h
  obtain ⟨schemaName, hschema, h⟩ := Calc.exists_of_bind_eq_ok h
  obtain ⟨tag, htag, h⟩ := Calc.exists_of_bind_eq_ok h
  cases h
  cases c with
  | tag => exact ⟨tag, htag, rfl⟩
  | schema => exact ⟨schemaName, hschema, rfl⟩

/-- A criterion is read from each entry with one of its names, and is its text or null. -/
theorem text?_of_mem (c : Criterion) (h : ofJson (.object entries) = .ok q) {e : String × Json}
    (he : e ∈ entries) (hname : e.1 ∈ c.name :: c.others) :
    (e.2 = .null ∧ c.text? q = none) ∨ ∃ s, e.2 = .text s ∧ c.text? q = some s := by
  obtain ⟨x, hfield, hx⟩ := c.exists_field h
  obtain ⟨t, ht, rfl⟩ := Json.decode_of_field hfield he (List.mem_cons.1 hname)
  rw [hx]
  exact Json.asOptional_asText_eq_ok ht

end Criterion

end Query

/-! ### Values whose documents are null -/

namespace Value

/-- A number is written as an integer or as itself, or is not finite. -/
theorem jsonNumber_cases (x : Float) :
    (∃ n, jsonNumber x = .int n) ∨ jsonNumber x = .real x ∨
      (jsonNumber x = .null ∧ x.isFinite = false) := by
  rw [jsonNumber]
  cases Number.integerBelow? integerBound x with
  | some n => exact .inl ⟨n, rfl⟩
  | none =>
      by_cases hfinite : x.isFinite = true
      · exact .inr (.inl (if_pos hfinite))
      · exact .inr (.inr ⟨if_neg hfinite, Bool.eq_false_iff.2 hfinite⟩)

/-- Null is the document of what is left out and of a number that is not finite. -/
theorem toJson_eq_null {v : Value} (h : v.toJson = .null) :
    v.isAbsent = true ∨ ∃ x, v = .number x ∧ x.isFinite = false := by
  cases v with
  | undefined => exact .inl rfl
  | null => exact .inl rfl
  | number x =>
      rw [toJson] at h
      rcases jsonNumber_cases x with ⟨n, hn⟩ | hreal | ⟨-, hfinite⟩
      · cases hn.symm.trans h
      · cases hreal.symm.trans h
      · exact .inr ⟨x, rfl, hfinite⟩
  | _ => cases h

/-- A text is the document of itself alone. -/
theorem toJson_eq_text {v : Value} {s : String} (h : v.toJson = .text s) : v = .text s := by
  cases v with
  | text t =>
      cases h
      rfl
  | number x =>
      rw [toJson] at h
      rcases jsonNumber_cases x with ⟨n, hn⟩ | hreal | ⟨hnull, -⟩
      · cases hn.symm.trans h
      · cases hreal.symm.trans h
      · cases hnull.symm.trans h
  | _ => cases h

end Value

/-! ### Criteria among props -/

namespace Request

variable {defaultLimit : UInt64} {props : Fields Value} {r : Request} {c : Query.Criterion}
  {name : String} {v : Value}

/-- The fields of the query in props: those of the record for it, or those among the props. -/
def queryFields (props : Fields Value) : Fields Value :=
  match Fields.get? props "query" with
  | some (.record fields) => fields
  | _ => queryPart props

/-- A request without an id is for the fields of the query. -/
theorem ofQuery_of_ofProps (hid : Fields.get? props "id" = none)
    (h : ofProps defaultLimit props = .ok r) :
    ofQuery defaultLimit (queryFields props) = .ok r := by
  rw [queryFields]
  cases hquery : Fields.get? props "query" with
  | none =>
      rw [ofProps_of_flattened hid hquery, ← ofQuery_queryPart] at h
      exact h
  | some v =>
      cases v with
      | record fields =>
          rw [ofProps_of_nested hid hquery] at h
          exact h
      | _ =>
          simp only [ofProps, hid, hquery] at h
          cases h

theorem ofQuery_criterion {fields : Fields Value} (h : ofQuery defaultLimit fields = .ok r)
    (hname : name ∈ c.name :: c.others) (hv : (name, v) ∈ fields) (hgiven : v.isAbsent = false) :
    ∃ q, r = .several q ∧
      ((∃ s, v = .text s ∧ c.text? q = some s) ∨
        ∃ x, v = .number x ∧ x.isFinite = false ∧ c.text? q = none) := by
  let given := fields.filter fun f => !f.2.isAbsent
  have hmem : (name, v.toJson) ∈ Value.fieldsToJson given := by
    have hkept : (name, v) ∈ given := List.mem_filter.2 ⟨hv, by rw [hgiven]; rfl⟩
    rw [Value.fieldsToJson_eq]
    exact List.mem_map_of_mem hkept
  rw [ofQuery] at h
  split at h
  · cases h
  · next query hquery =>
      cases h
      refine ⟨_, rfl, ?_⟩
      have hlimit : c.text? (if Fields.contains given "limit" then query
          else { query with limit := defaultLimit }) = c.text? query := by
        cases c <;> split <;> rfl
      rw [hlimit]
      rcases c.text?_of_mem hquery hmem hname with ⟨hnull, hnone⟩ | ⟨s, htext, hsome⟩
      · rcases Value.toJson_eq_null hnull with habsent | ⟨x, rfl, hfinite⟩
        · rw [hgiven] at habsent
          cases habsent
        · exact .inr ⟨x, rfl, hfinite, hnone⟩
      · exact .inl ⟨s, Value.toJson_eq_text htext, hsome⟩

/-- **A criterion that is given is not dropped, unless it is a number that is not finite.**  Where
props without an id are a request and the fields of their query give a value for the tag or the
schema that does not count as left out, the request is a query with that criterion: the value is a
text and the criterion is set to it.  Otherwise the value is a number that is not finite and the
criterion is not set. -/
theorem ofProps_criterion (hid : Fields.get? props "id" = none)
    (h : ofProps defaultLimit props = .ok r) (hname : name ∈ c.name :: c.others)
    (hv : Fields.get? (queryFields props) name = some v) (hgiven : v.isAbsent = false) :
    ∃ q, r = .several q ∧
      ((∃ s, v = .text s ∧ c.text? q = some s) ∨
        ∃ x, v = .number x ∧ x.isFinite = false ∧ c.text? q = none) :=
  ofQuery_criterion (ofQuery_of_ofProps hid h) hname (Fields.mem_of_get?_eq_some hv) hgiven

/-- A query for a schema, under its other name, and for a tag that is not a number. -/
def strayProps : Fields Value :=
  [("query", .record [("schema", .text "shelf"), ("tag", .number Number.nan)])]

/-- All that is left of it. -/
def shelfQuery : Query :=
  ⟨none, some "shelf", [], [], 10⟩

/-- The schema is set, and the tag is a number that is not finite. -/
theorem ofProps_criterion_strayProps :
    Fields.get? strayProps "id" = none ∧ ofProps 10 strayProps = .ok (.several shelfQuery) ∧
      (∃ s, Value.text "shelf" = .text s ∧ shelfQuery.schemaName = some s) ∧
      ∃ x, Value.number Number.nan = .number x ∧ x.isFinite = false ∧ shelfQuery.tag = none := by
  have h : ofProps 10 strayProps = .ok (.several shelfQuery) := rfl
  have hschema : "schema" ∈ Query.Criterion.schema.name :: Query.Criterion.schema.others := by
    decide
  have htag : "tag" ∈ Query.Criterion.tag.name :: Query.Criterion.tag.others := by decide
  obtain ⟨q, hq, hset⟩ := ofProps_criterion (v := .text "shelf") rfl h hschema rfl rfl
  obtain ⟨p, hp, hdropped⟩ := ofProps_criterion (v := .number Number.nan) rfl h htag rfl rfl
  cases hq
  cases hp
  exact ⟨rfl, h, hset.resolve_right nofun, hdropped.resolve_left nofun⟩

/-- A tag that is not a number. -/
def strayTag : Fields Value :=
  [("tag", .number Number.nan)]

/-- A criterion that is given can be dropped: what is asked for a tag that is not a number selects
every record. -/
theorem not_criterion_set_strayTag :
    Fields.get? strayTag "id" = none ∧
      Fields.get? (queryFields strayTag) "tag" = some (.number Number.nan) ∧
      (Value.number Number.nan).isAbsent = false ∧
      ∃ q, ofProps 10 strayTag = .ok (.several q) ∧ q.tag = none ∧
        ∀ r : Record, q.selects r = true :=
  ⟨rfl, rfl, rfl, ⟨none, none, [], [], 10⟩, rfl, rfl, fun _ => rfl⟩

end Request

end ViewTree
