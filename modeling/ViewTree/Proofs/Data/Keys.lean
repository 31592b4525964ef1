import ViewTree.Data.Request
import ViewTree.Proofs.Json.RoundTrip
import ViewTree.Proofs.Number.Integers

/-!
# Data — keys of requests

The key of a request is all that a host has of it, so it has to hold the whole request: two requests
never share a key, and a loader whose props are the fields of the key asks for the same request
again.

* `Query.ofJson_of_gives`: a query is read from any document with its fields, in whatever order.
* `Value.get?_fieldsToJson`: a document keeps its fields when it becomes a value and back.
* `Request.key_faithful`: keys are faithful.
-/

namespace ViewTree

/-! ### Tables without a repeated name -/

namespace Fields

variable {α : Type}

/-- A table in which each name stands once. -/
def Distinct (fs : Fields α) : Prop :=
  (keys fs).Nodup

theorem Ordered.distinct {fs : Fields α} (h : Ordered fs) : Distinct fs := by
  have hlt : (keys fs).Pairwise (· < ·) := List.pairwise_map.2 h
  refine List.nodup_iff_pairwise_ne.2 (hlt.imp fun hab heq => ?_)
  rw [heq] at hab
  exact String.lt_irrefl _ hab

theorem distinct_cons {k : String} {v : α} {fs : Fields α} :
    Distinct ((k, v) :: fs) ↔ get? fs k = none ∧ Distinct fs := by
  rw [Distinct, keys, List.map_cons, List.nodup_cons, get?_eq_none_iff]
  refine and_congr_left fun _ => ⟨fun h f hf he => h ?_, fun h hm => ?_⟩
  · exact List.mem_map.2 ⟨f, hf, he⟩
  · obtain ⟨f, hf, he⟩ := List.mem_map.1 hm
    exact h f hf he

/-- Where each name stands once, what stands under a name is its entry. -/
theorem filter_eq_get? {fs : Fields α} (h : Distinct fs) (name : String) :
    fs.filter (fun f => f.1 == name) = ((get? fs name).map fun v => (name, v)).toList := by
  induction fs with
  | nil => rfl
  | cons f fs ih =>
      obtain ⟨k, v⟩ := f
      obtain ⟨hk, hfs⟩ := distinct_cons.1 h
      rw [get?_cons]
      by_cases hn : k = name
      · subst hn
        rw [List.filter_cons, if_pos (beq_self_eq_true k), ih hfs, hk, if_pos rfl]
        rfl
      · have hother : ¬ (k == name) = true := fun he => hn (beq_iff_eq.1 he)
        rw [List.filter_cons, if_neg hother, ih hfs, if_neg hn]

theorem get?_reverse {fs : Fields α} (h : Distinct fs) (name : String) :
    get? fs.reverse name = get? fs name := by
  induction fs with
  | nil => rfl
  | cons f fs ih =>
      obtain ⟨k, v⟩ := f
      obtain ⟨hk, hfs⟩ := distinct_cons.1 h
      rw [List.reverse_cons, get?_append, ih hfs, get?_cons, get?_cons, get?_nil]
      split
      · next hn => subst hn; rw [hk]; rfl
      · exact Option.or_none

end Fields

/-! ### Fields of a document -/

namespace Json

variable {α : Type} {entries : Fields Json} {name : String} {others : List String}
  {decode : Json → Except Mismatch α}

/-- The entries that a field may be given by are those under its first name, if none of its others
is used. -/
theorem filter_field (hdistinct : Fields.Distinct entries)
    (hothers : ∀ o ∈ others, Fields.get? entries o = none) :
    entries.filter (fun e => e.1 == name || others.contains e.1) =
      ((Fields.get? entries name).map fun v => (name, v)).toList := by
  rw [← Fields.filter_eq_get? hdistinct]
  refine List.filter_congr fun e he => ?_
  have hunused : others.contains e.1 = false := by
    refine Bool.eq_false_iff.2 fun hc => ?_
    exact Fields.get?_eq_none_iff.1 (hothers e.1 (List.contains_iff_mem.1 hc)) e he rfl
  rw [hunused, Bool.or_false]

section Field

variable (hdistinct : Fields.Distinct entries)
  (hothers : ∀ o ∈ others, Fields.get? entries o = none)

include hdistinct hothers

theorem field_of_none (h : Fields.get? entries name = none) :
    field name others decode entries = .ok none := by
  rw [field, filter_field hdistinct hothers, h]
  rfl

theorem field_of_some {j : Json} {a : α} (h : Fields.get? entries name = some j)
    (hj : decode j = .ok a) : field name others decode entries = .ok (some a) := by
  rw [field, filter_field hdistinct hothers, h]
  change some <$> decode j = _
  rw [hj]
  rfl

theorem field_text {t : Option String} (h : Fields.get? entries name = t.map .text) :
    ∃ x, field name others (asOptional asText) entries = .ok x ∧ x.join = t := by
  cases t with
  | none => exact ⟨none, field_of_none hdistinct hothers h, rfl⟩
  | some s => exact ⟨some (some s), field_of_some hdistinct hothers h rfl, rfl⟩

end Field

/-- A list of tags that is not empty. -/
def tags? (tags : List String) : Option Json :=
  if tags.isEmpty then none else some (.array (tags.map .text))

theorem asTexts_map_text (texts : List String) :
    asTexts (.array (texts.map .text)) = .ok texts := by
  have hall : (texts.map Json.text).mapM asText = .ok texts := by
    induction texts with
    | nil => rfl
    | cons t ts ih =>
        rw [List.map_cons, List.mapM_cons, ih]
        rfl
  exact hall

theorem field_tags (hdistinct : Fields.Distinct entries) {tags : List String}
    (h : Fields.get? entries name = tags? tags) :
    ∃ x, field name [] asTexts entries = .ok x ∧ x.getD [] = tags := by
  have hnone : ∀ o ∈ ([] : List String), Fields.get? entries o = none := List.forall_mem_nil _
  cases tags with
  | nil => exact ⟨none, field_of_none hdistinct hnone h, rfl⟩
  | cons t ts =>
      exact ⟨some (t :: ts), field_of_some hdistinct hnone h (asTexts_map_text (t :: ts)), rfl⟩

theorem asWord_toNat (w : UInt64) : asWord (.int w.toNat) = .ok w := by
  have hmod : (w.toNat : Int) % 18446744073709551616 = w.toNat :=
    Int.emod_eq_of_lt (Int.natCast_nonneg _) (Int.ofNat_lt.2 w.toNat_lt)
  have hword : UInt64.ofInt (w.toNat : Int) = w := by
    change UInt64.ofNat ((w.toNat : Int) % 18446744073709551616).toNat = w
    rw [hmod, Int.toNat_natCast, UInt64.ofNat_toNat]
  rw [asWord]
  simp only [hword, if_true]

end Json

namespace Query

/-- A document has the fields of a query, in some order. -/
structure Gives (q : Query) (entries : Fields Json) : Prop where
  distinct : Fields.Distinct entries
  tag : Fields.get? entries "tag" = q.tag.map .text
  schemaName : Fields.get? entries "schema_name" = q.schemaName.map .text
  /-- The other name of the schema is not used. -/
  schema : Fields.get? entries "schema" = none
  anyTags : Fields.get? entries "any_tags" = Json.tags? q.anyTags
  allTags : Fields.get? entries "all_tags" = Json.tags? q.allTags
  limit : Fields.get? entries "limit" = some (.int q.limit.toNat)

/-- A query is read from any document that has its fields. -/
theorem ofJson_of_gives {q : Query} {entries : Fields Json} (h : q.Gives entries) :
    ofJson (.object entries) = .ok q := by
  have hnone : ∀ o ∈ ([] : List String), Fields.get? entries o = none := List.forall_mem_nil _
  have hschema : ∀ o ∈ ["schema"], Fields.get? entries o = none := by
    intro o ho
    cases List.mem_singleton.1 ho
    exact h.schema
  obtain ⟨allTags, hall, hall'⟩ := Json.field_tags h.distinct h.allTags
  obtain ⟨anyTags, hany, hany'⟩ := Json.field_tags h.distinct h.anyTags
  have hlimit := Json.field_of_some h.distinct hnone h.limit (Json.asWord_toNat q.limit)
  obtain ⟨schemaName, hname, hname'⟩ := Json.field_text h.distinct hschema h.schemaName
  obtain ⟨tag, htag, htag'⟩ := Json.field_text h.distinct hnone h.tag
  rw [ofJson, Json.asEntries]
  simp only [bind, Except.bind, hall, hany, hlimit, hname, htag, hall', hany', hname', htag']
  rfl

theorem get?_textField (name other : String) (t : Option String) :
    Fields.get? (t.map fun s => (name, Json.text s)).toList other =
      if name = other then t.map .text else none := by
  cases t with
  | none => exact (ite_self none).symm
  | some s => rfl

theorem get?_tagsField (name other : String) (tags : List String) :
    Fields.get? (tagsField name tags) other = if name = other then Json.tags? tags else none := by
  cases tags with
  | nil => exact (ite_self none).symm
  | cons t ts => rfl

theorem keys_textField (name : String) (t : Option String) :
    (Fields.keys (t.map fun s => (name, Json.text s)).toList).Sublist [name] := by
  cases t with
  | none => exact List.nil_sublist _
  | some s => exact List.Sublist.refl _

theorem keys_tagsField (name : String) (tags : List String) :
    (Fields.keys (tagsField name tags)).Sublist [name] := by
  cases tags with
  | nil => exact List.nil_sublist _
  | cons t ts => exact List.Sublist.refl _

/-- The document of a query has its fields. -/
theorem gives_toJson (q : Query) : ∃ entries, q.toJson = .object entries ∧ q.Gives entries := by
  refine ⟨_, rfl, ?distinct, ?_, ?_, ?_, ?_, ?_, ?_⟩
  case distinct =>
    have hkeys := ((((keys_textField "tag" q.tag).append
      (keys_textField "schema_name" q.schemaName)).append
        (keys_tagsField "any_tags" q.anyTags)).append (keys_tagsField "all_tags" q.allTags)).append
          (List.Sublist.refl ["limit"])
    have hnames : fieldNames.Nodup := by decide
    refine List.Nodup.sublist ?_ hnames
    simp only [Fields.keys, List.map_append] at hkeys ⊢
    exact hkeys
  all_goals
    simp only [Fields.get?_append, get?_textField, get?_tagsField, Fields.get?_cons,
      Fields.get?_nil, String.reduceEq, if_true, if_false, Option.or_none, Option.none_or]

/-- The fields of a query are texts, lists of texts and the limit. -/
theorem mem_toJson {q : Query} {entries : Fields Json} (h : q.toJson = .object entries)
    {e : String × Json} (he : e ∈ entries) :
    (∃ t, e.2 = .text t) ∨ (∃ tags : List String, e.2 = .array (tags.map .text)) ∨
      e.2 = .int q.limit.toNat := by
  have htags : ∀ {name tags}, e ∈ tagsField name tags → e.2 = .array (tags.map .text) := by
    intro name tags hm
    rw [tagsField] at hm
    split at hm
    · cases hm
    · cases List.mem_singleton.1 hm
      rfl
  cases h
  simp only [List.mem_append, Option.mem_toList, Option.map_eq_some_iff, List.mem_singleton] at he
  obtain (((⟨t, -, rfl⟩ | ⟨t, -, rfl⟩) | hm) | hm) | rfl := he
  · exact .inl ⟨t, rfl⟩
  · exact .inl ⟨t, rfl⟩
  · exact .inr (.inl ⟨_, htags hm⟩)
  · exact .inr (.inl ⟨_, htags hm⟩)
  · exact .inr (.inr rfl)

end Query

/-! ### Documents as values -/

namespace Fields

variable {α β : Type}

theorem mem_of_mem_ofList {bindings : List (String × α)} {f : String × α}
    (h : f ∈ ofList bindings) : f ∈ bindings := by
  have hall : ∀ (bs : List (String × α)) (fs : Fields α),
      f ∈ insertAll bs fs → f ∈ bs ∨ f ∈ fs := by
    intro bs
    induction bs with
    | nil => exact fun fs h => .inr h
    | cons b bs ih =>
        intro fs h
        rcases ih _ h with h | h
        · exact .inl (.tail b h)
        · rcases mem_insert h with rfl | h
          · exact .inl (.head bs)
          · exact .inr h
  exact (hall bindings [] h).resolve_right nofun

theorem get?_map (g : α → β) (fs : Fields α) (name : String) :
    get? (fs.map fun f => (f.1, g f.2)) name = (get? fs name).map g := by
  induction fs with
  | nil => rfl
  | cons f fs ih =>
      obtain ⟨k, v⟩ := f
      rw [List.map_cons, get?_cons, get?_cons, ih]
      split <;> rfl

theorem keys_map (g : α → β) (fs : Fields α) :
    keys (fs.map fun f => (f.1, g f.2)) = keys fs := by
  rw [keys, List.map_map]
  rfl

end Fields

namespace Value

theorem entriesOfJson_eq (entries : List (String × Json)) :
    entriesOfJson entries = entries.map fun e => (e.1, ofJson e.2) := by
  induction entries with
  | nil => rfl
  | cons e es ih => rw [entriesOfJson, List.map_cons, ih]

/-- A document that stays what it is when it becomes a value and back, and is not left out. -/
structure Keeps (j : Json) : Prop where
  back : (ofJson j).toJson = j
  given : (ofJson j).isAbsent = false

theorem keeps_text (t : String) : Keeps (.text t) := ⟨rfl, rfl⟩

theorem keeps_texts (texts : List String) : Keeps (.array (texts.map .text)) := by
  have hitems : itemsToJson (itemsOfJson (texts.map .text)) = texts.map .text := by
    induction texts with
    | nil => rfl
    | cons t ts ih => rw [List.map_cons, itemsOfJson, itemsToJson, ih]; rfl
  exact ⟨congrArg Json.array hitems, rfl⟩

/-- An integer below the bound for integers is kept by its number. -/
theorem keeps_nat {n : Nat} (hn : n < integerBound) : Keeps (.int n) := by
  have hbound : n < 2 * Number.leadingOne := Nat.lt_trans hn (by decide)
  have hnumber : Number.ofInt n = Number.ofNat n := by
    rw [Number.ofInt, if_neg (by omega)]
    rfl
  have hinteger : Number.integerBelow? integerBound (Number.ofNat n) = some (n : Int) := by
    rw [Number.integerBelow?, Number.integer?_ofNat hbound]
    exact Option.filter_some_pos (decide_eq_true hn)
  refine ⟨?_, rfl⟩
  rw [ofJson, toJson, jsonNumber, hnumber, hinteger]

section Document

variable {entries : Fields Json} (hdistinct : Fields.Distinct entries)
  (hkeeps : ∀ e ∈ entries, Keeps e.2)

/-- The fields of a document as a value. -/
def fieldsOf (entries : List (String × Json)) : Fields Value :=
  Fields.ofList (entriesOfJson entries)

include hkeeps in
/-- None of them counts as left out. -/
theorem filter_fieldsOf :
    (fieldsOf entries).filter (fun f => !f.2.isAbsent) = fieldsOf entries := by
  refine List.filter_eq_self.2 fun f hf => ?_
  have hm := Fields.mem_of_mem_ofList hf
  rw [entriesOfJson_eq] at hm
  obtain ⟨e, he, rfl⟩ := List.mem_map.1 hm
  simp only [(hkeeps e he).given, Bool.not_false]

include hdistinct

theorem get?_fieldsOf (name : String) :
    Fields.get? (fieldsOf entries) name = (Fields.get? entries name).map ofJson := by
  have hnames : Fields.Distinct (entriesOfJson entries) := by
    rw [entriesOfJson_eq, Fields.Distinct, Fields.keys_map]
    exact hdistinct
  rw [fieldsOf, Fields.get?_ofList, Fields.get?_reverse hnames, entriesOfJson_eq, Fields.get?_map]

include hkeeps

/-- A document keeps its fields when it becomes a value and back. -/
theorem get?_fieldsToJson (name : String) :
    Fields.get? (fieldsToJson (fieldsOf entries)) name = Fields.get? entries name := by
  rw [fieldsToJson_eq, Fields.get?_map, get?_fieldsOf hdistinct]
  cases hg : Fields.get? entries name with
  | none => rfl
  | some j =>
      have hj := hkeeps (name, j) (Fields.mem_of_get?_eq_some hg)
      rw [Option.map_some, Option.map_some, hj.back]

end Document

end Value

/-! ### Queries and requests -/

namespace Query

/-- A query is readable from its text, whatever its texts hold. -/
theorem readable_toJson (q : Query) (levels : Nat) : Json.Readable (levels + 2) q.toJson := by
  obtain ⟨entries, hentries, -⟩ := q.gives_toJson
  rw [hentries]
  refine .object fun e he => ?_
  obtain ⟨t, h⟩ | ⟨tags, h⟩ | h := mem_toJson hentries he
  · exact h ▸ .text t
  · exact h ▸ .texts tags
  · exact h ▸ .word q.limit

/-- The fields of a query stay what they are as values, unless its limit is too large. -/
theorem keeps_of_mem_toJson {q : Query} (hlimit : q.limit.toNat < Value.integerBound)
    {entries : Fields Json} (h : q.toJson = .object entries) :
    ∀ e ∈ entries, Value.Keeps e.2 := by
  intro e he
  obtain ⟨t, h⟩ | ⟨tags, h⟩ | h := mem_toJson h he
  · exact h ▸ Value.keeps_text t
  · exact h ▸ Value.keeps_texts tags
  · exact h ▸ Value.keeps_nat hlimit

/-- A document gives the same query after it became a value and back. -/
theorem Gives.fieldsToJson {q : Query} {entries : Fields Json} (h : q.Gives entries)
    (hkeeps : ∀ e ∈ entries, Value.Keeps e.2) :
    q.Gives (Value.fieldsToJson (Value.fieldsOf entries)) := by
  have hget := Value.get?_fieldsToJson h.distinct hkeeps
  exact {
    distinct := by
      rw [Value.fieldsToJson_eq, Fields.Distinct, Fields.keys_map]
      exact (Fields.ordered_ofList _).distinct
    tag := (hget _).trans h.tag
    schemaName := (hget _).trans h.schemaName
    schema := (hget _).trans h.schema
    anyTags := (hget _).trans h.anyTags
    allTags := (hget _).trans h.allTags
    limit := (hget _).trans h.limit }

/-- A query is read back from its document. -/
theorem ofJson_toJson (q : Query) : ofJson q.toJson = .ok q := by
  obtain ⟨entries, hentries, hgives⟩ := q.gives_toJson
  rw [hentries]
  exact ofJson_of_gives hgives

theorem toJson_injective {p q : Query} (h : p.toJson = q.toJson) : p = q := by
  have hp := p.ofJson_toJson
  rw [h, q.ofJson_toJson] at hp
  exact (Except.ok.inj hp).symm

end Query

namespace Request

theorem toJson_injective {r s : Request} (h : r.toJson = s.toJson) : r = s := by
  have hfield : ∀ {name other : String} {i j : Json},
      Json.object [(name, i)] = .object [(other, j)] → name = other ∧ i = j :=
    fun h => Prod.mk.inj (List.cons.inj (Json.object.inj h)).1
  cases r with
  | one id =>
      cases s with
      | one other => rw [Json.text.inj (hfield h).2]
      | several q => exact absurd (hfield h).1 (by decide)
  | several p =>
      cases s with
      | one other => exact absurd (hfield h).1 (by decide)
      | several q => rw [Query.toJson_injective (hfield h).2]

theorem readable_toJson (r : Request) (levels : Nat) : Json.Readable (levels + 3) r.toJson := by
  cases r with
  | one id =>
      refine .object fun e he => ?_
      cases List.mem_singleton.1 he
      exact .text id
  | several q =>
      refine .object fun e he => ?_
      cases List.mem_singleton.1 he
      exact q.readable_toJson levels

/-- The document of a request is the one in its key. -/
theorem parse?_key (r : Request) : Json.parse? Json.maxLevels r.key = some r.toJson := by
  have hreadable : Json.Readable Json.maxLevels r.toJson := r.readable_toJson 124
  exact Json.parse?_render hreadable

theorem key_injective {r s : Request} (h : r.key = s.key) : r = s := by
  have hdocuments : some r.toJson = some s.toJson := by rw [← parse?_key, ← parse?_key, h]
  exact toJson_injective (Option.some.inj hdocuments)

/-- Props with the fields of a query ask for that query. -/
theorem ofQuery_fieldsOf {q : Query} {entries : Fields Json} (h : q.Gives entries)
    (hkeeps : ∀ e ∈ entries, Value.Keeps e.2) (defaultLimit : UInt64) :
    ofQuery defaultLimit (Value.fieldsOf entries) = .ok (.several q) := by
  have hread : Query.ofJson (Value.record (Value.fieldsOf entries)).toJson = .ok q :=
    Query.ofJson_of_gives (h.fieldsToJson hkeeps)
  have hlimit : Fields.contains (Value.fieldsOf entries) "limit" = true := by
    rw [Fields.contains, Value.get?_fieldsOf h.distinct, h.limit]
    rfl
  simp only [ofQuery, Value.filter_fieldsOf hkeeps, hread, hlimit, if_true]

/-- The requests whose keys can be read as props: an id must not be empty, and a limit must be one
that numbers keep. -/
def ReadsBack : Request → Prop
  | one id => id ≠ ""
  | several q => q.limit.toNat < Value.integerBound

/-- The props in a key ask for the request of the key. -/
theorem exists_ofProps {r : Request} (h : r.ReadsBack) :
    ∃ props, Value.ofJson r.toJson = .record props ∧
      ∀ defaultLimit, ofProps defaultLimit props = .ok r := by
  cases r with
  | one id =>
      refine ⟨[("id", .text id)], rfl, fun defaultLimit => ?_⟩
      exact if_neg h
  | several q =>
      obtain ⟨entries, hentries, hgives⟩ := q.gives_toJson
      refine ⟨[("query", .record (Value.fieldsOf entries))], ?_, fun defaultLimit => ?_⟩
      · rw [toJson, hentries]
        rfl
      · exact ofQuery_fieldsOf hgives (Query.keeps_of_mem_toJson h hentries) defaultLimit

/-- **Keys are faithful.**  Requests with one key are the same request, and a loader whose props are
those in the key asks for that request again, whatever limit it has for queries without one. -/
theorem key_faithful :
    (∀ r s : Request, r.key = s.key ↔ r = s) ∧
      ∀ r : Request, r.ReadsBack →
        ∃ props, (Json.parse? Json.maxLevels r.key).map Value.ofJson = some (.record props) ∧
          ∀ defaultLimit, ofProps defaultLimit props = .ok r := by
  refine ⟨fun r s => ⟨fun h => ?_, congrArg key⟩, fun r h => ?_⟩
  · refine toJson_injective (Option.some.inj ?_)
    rw [← parse?_key, ← parse?_key, h]
  · obtain ⟨props, hprops, hread⟩ := exists_ofProps h
    refine ⟨props, ?_, hread⟩
    rw [parse?_key, Option.map_some, hprops]

/-- A query whose tags hold what has to be escaped, with the largest limit that numbers keep. -/
def escapedQuery : Query :=
  ⟨some "a\"b\\c\x01\n", some "", ["", "é😀"], [], 8999999999999999⟩

theorem key_faithful_escapedQuery :
    (Request.several escapedQuery).ReadsBack ∧
      ∃ props,
        (Json.parse? Json.maxLevels (Request.several escapedQuery).key).map Value.ofJson =
          some (.record props) ∧
        ∀ defaultLimit, ofProps defaultLimit props = .ok (.several escapedQuery) := by
  have hlimit : (Request.several escapedQuery).ReadsBack := by
    show escapedQuery.limit.toNat < Value.integerBound
    decide
  exact ⟨hlimit, key_faithful.2 (.several escapedQuery) hlimit⟩

end Request

end ViewTree
