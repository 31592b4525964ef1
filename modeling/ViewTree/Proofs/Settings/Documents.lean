import Mathlib.Data.List.Sort
import ViewTree.Proofs.Data.Nesting
import ViewTree.Settings

/-!
# Settings — documents with fields left out

A document may leave out any field of the settings, and a field that is left out has its default.
So some settings can be read back from part of their document exactly if what is missing is what the
defaults have in its place.

* `ofJson_without`: what is read from part of a document.
* `reset_eq_self_iff`: when these are the settings that the whole document is of.
* `parse_without`: the same of texts, and what is reported for a limit of 0.
-/

namespace ViewTree

/-- Sets of the same names are the same. -/
theorem Names.ext_mem {ns ms : Names} (h : ∀ name, name ∈ ns ↔ name ∈ ms) : ns = ms := by
  obtain ⟨ns, hns⟩ := ns
  obtain ⟨ms, hms⟩ := ms
  have heq : ns = ms := hns.eq_of_mem_iff hms h
  subst heq
  rfl

theorem Names.ofList_toList (ns : Names) : ofList ns.toList = ns :=
  ext_mem fun _ => mem_ofList

namespace Json

/-- The fields of a document that is an object. -/
def entries : Json → Fields Json
  | .object es => es
  | _ => []

theorem asText_text (s : String) : asText (.text s) = .ok s := rfl

theorem text_injective : Function.Injective text := fun _ _ => text.inj

theorem int_toNat_injective : Function.Injective fun w : UInt64 => int w.toNat := by
  intro v w h
  exact UInt64.toNat_inj.1 (Int.ofNat_inj.1 (int.inj h))

theorem array_toList_injective :
    Function.Injective fun ns : Names => array (ns.toList.map text) := by
  intro ns ms h
  have hlist : ns.toList = ms.toList := List.map_injective_iff.2 text_injective (array.inj h)
  rw [← ns.ofList_toList, hlist, ms.ofList_toList]

end Json

namespace Settings

/-- The fields of the document of some settings. -/
def entries (c : Settings) : Fields Json :=
  c.toJson.entries

/-- What a table of documents holds of some settings. -/
structure Gives (c : Settings) (entries : Fields Json) : Prop where
  maxDepth : Fields.get? entries "max_depth" = some (.int c.maxDepth.toNat)
  defaultLimit : Fields.get? entries "default_limit" = some (.int c.defaultLimit.toNat)
  maxSettleRounds : Fields.get? entries "max_settle_rounds" = some (.int c.maxSettleRounds.toNat)
  /-- Settings that name no elements have no such field. -/
  elementNames : Fields.get? entries "primitives" =
    c.elementNames.map fun names => .array (names.map .text)
  valueTakers : Fields.get? entries "value_handlers" =
    some (.array (c.policy.valueTakers.toList.map .text))
  defaultPreventers : Fields.get? entries "prevent_default_handlers" =
    some (.array (c.policy.defaultPreventers.toList.map .text))
  conditionalName : Fields.get? entries "conditional_name" = some (.text c.conditionalName)
  dataLoaderName : Fields.get? entries "data_loader_name" = some (.text c.dataLoaderName)

theorem get?_elementNames (names : Option (List String)) (name : String) :
    Fields.get? (names.map fun ns => ("primitives", Json.array (ns.map .text))).toList name =
      if "primitives" = name then names.map fun ns => .array (ns.map .text) else none := by
  cases names with
  | none => exact (ite_self none).symm
  | some ns => rfl

theorem gives_entries (c : Settings) : c.Gives c.entries := by
  constructor
  all_goals
    simp only [entries, toJson, Json.entries, Policy.toEntries, Fields.get?_append,
      get?_elementNames, Fields.get?_cons, Fields.get?_nil, String.reduceEq, ↓reduceIte,
      Option.or_none, Option.none_or]

/-- The names of the fields, in order. -/
def fieldNames : List String :=
  ["max_depth", "default_limit", "max_settle_rounds", "primitives", "value_handlers",
    "prevent_default_handlers", "conditional_name", "data_loader_name"]

theorem distinct_entries (c : Settings) : Fields.Distinct c.entries := by
  have hnames : fieldNames.Nodup := by decide
  refine List.Nodup.sublist ?_ hnames
  cases h : c.elementNames <;> simp [entries, toJson, Json.entries, h, Fields.keys,
    fieldNames, Policy.toEntries]

/-! ### Fields left out -/

/-- The document of some settings without the fields of some names. -/
def without (c : Settings) (dropped : List String) : Json :=
  .object (c.entries.filter fun e => !dropped.contains e.1)

/-- A value unless its field is dropped. -/
def kept? {α : Type} (dropped : List String) (name : String) (value : α) : Option α :=
  if dropped.contains name then none else some value

theorem map_kept? {α β : Type} (f : α → β) (dropped : List String) (name : String) (value : α) :
    (kept? dropped name value).map f = kept? dropped name (f value) := by
  rw [kept?, kept?]
  split <;> rfl

/-- The settings with the defaults in the fields of some names. -/
def reset (c : Settings) (dropped : List String) : Settings where
  maxDepth := (kept? dropped "max_depth" c.maxDepth).getD default.maxDepth
  defaultLimit := (kept? dropped "default_limit" c.defaultLimit).getD default.defaultLimit
  maxSettleRounds :=
    (kept? dropped "max_settle_rounds" c.maxSettleRounds).getD default.maxSettleRounds
  elementNames := (kept? dropped "primitives" c.elementNames).getD default.elementNames
  policy := {
    valueTakers :=
      (kept? dropped "value_handlers" c.policy.valueTakers).getD default.policy.valueTakers
    defaultPreventers := (kept? dropped "prevent_default_handlers"
      c.policy.defaultPreventers).getD default.policy.defaultPreventers }
  conditionalName :=
    (kept? dropped "conditional_name" c.conditionalName).getD default.conditionalName
  dataLoaderName :=
    (kept? dropped "data_loader_name" c.dataLoaderName).getD default.dataLoaderName

section Left

variable {α : Type} {entries : Fields Json} (hdistinct : Fields.Distinct entries)
  {name : String} {decode : Json → Except Json.Mismatch α}

include hdistinct

theorem distinct_left (dropped : List String) :
    Fields.Distinct (entries.filter fun e => !dropped.contains e.1) :=
  hdistinct.sublist (List.filter_sublist.map _)

theorem field_left_of_none (hget : Fields.get? entries name = none) (dropped : List String) :
    Json.field name [] decode (entries.filter fun e => !dropped.contains e.1) = .ok none := by
  refine Json.field_of_none (distinct_left hdistinct dropped) (List.forall_mem_nil _) ?_
  rw [Fields.get?_filter_name (fun n => !dropped.contains n), hget, ite_self]

/-- What is left of a table gives a field what the table did, unless the field is dropped. -/
theorem field_left {j : Json} (hget : Fields.get? entries name = some j) {a : α}
    (hj : decode j = .ok a) (dropped : List String) :
    Json.field name [] decode (entries.filter fun e => !dropped.contains e.1) =
      .ok (kept? dropped name a) := by
  have hkept := distinct_left hdistinct dropped
  have hleft := Fields.get?_filter_name (fun n => !dropped.contains n) entries name
  rw [kept?]
  by_cases hname : dropped.contains name = true
  · rw [hname, Bool.not_true, if_neg Bool.false_ne_true] at hleft
    rw [if_pos hname]
    exact Json.field_of_none hkept (List.forall_mem_nil _) hleft
  · rw [Bool.eq_false_iff.2 hname, Bool.not_false, if_pos rfl, hget] at hleft
    rw [if_neg hname]
    exact Json.field_of_some hkept (List.forall_mem_nil _) hleft hj

end Left

/-- The names of elements may be missing before anything is dropped. -/
theorem field_elementNames_left (c : Settings) (dropped : List String) :
    ∃ x, Json.field "primitives" [] (Json.asOptional Json.asTexts)
        (c.entries.filter fun e => !dropped.contains e.1) = .ok x ∧
      x.join = (kept? dropped "primitives" c.elementNames).getD default.elementNames := by
  have hget := c.gives_entries.elementNames
  cases hnames : c.elementNames with
  | none =>
      rw [hnames] at hget
      refine ⟨none, field_left_of_none c.distinct_entries hget dropped, ?_⟩
      rw [kept?]
      split <;> rfl
  | some names =>
      rw [hnames] at hget
      have hread : Json.asOptional Json.asTexts (.array (names.map .text)) = .ok (some names) :=
        congrArg (some <$> ·) (Json.asTexts_map_text names)
      refine ⟨_, field_left c.distinct_entries hget hread dropped, ?_⟩
      cases kept? dropped "primitives" (some names) <;> rfl

/-- Settings are read from what is left of their document, with the defaults in the fields that are
missing. -/
theorem ofJson_without (c : Settings) (dropped : List String) :
    ofJson (c.without dropped) = .ok (c.reset dropped) := by
  have hdistinct := c.distinct_entries
  have hgives := c.gives_entries
  have hdepth := field_left hdistinct hgives.maxDepth (Json.asWord_toNat _) dropped
  have hlimit := field_left hdistinct hgives.defaultLimit (Json.asWord_toNat _) dropped
  have hrounds := field_left hdistinct hgives.maxSettleRounds (Json.asWord_toNat _) dropped
  obtain ⟨elementNames, hnames, hnames'⟩ := field_elementNames_left c dropped
  have htakers := field_left hdistinct hgives.valueTakers (Json.asTexts_map_text _) dropped
  have hpreventers :=
    field_left hdistinct hgives.defaultPreventers (Json.asTexts_map_text _) dropped
  have hconditional := field_left hdistinct hgives.conditionalName (Json.asText_text _) dropped
  have hloader := field_left hdistinct hgives.dataLoaderName (Json.asText_text _) dropped
  rw [without, ofJson, ofEntries, Policy.ofEntries]
  simp only [bind, Except.bind, hdepth, hlimit, hrounds, hnames, hnames', hconditional, hloader,
    htakers, hpreventers, pure, Except.pure, map_kept?, Names.ofList_toList]
  rfl

/-! ### Defaults -/

/-- What is dropped is what it was before exactly if the defaults have the same entry. -/
theorem getD_kept?_eq_iff {α : Type} {encode : α → Json} (hencode : Function.Injective encode)
    {name : String} {fallback : α}
    (hdefault : Fields.get? default.entries name = some (encode fallback)) (dropped : List String)
    (value : α) :
    (kept? dropped name value).getD fallback = value ↔
      (name ∈ dropped → (name, encode value) ∈ default.entries) := by
  rw [← default.distinct_entries.get?_eq_some_iff, hdefault, Option.some_inj, hencode.eq_iff, kept?,
    ← List.contains_iff_mem]
  cases dropped.contains name with
  | true => exact ⟨fun h _ => h, fun h => h rfl⟩
  | false => exact iff_of_true rfl nofun

/-- The same of the names of elements, of which the defaults have none. -/
theorem getD_kept?_elementNames_iff (c : Settings) (dropped : List String) :
    (kept? dropped "primitives" c.elementNames).getD default.elementNames = c.elementNames ↔
      ∀ names, c.elementNames = some names → "primitives" ∈ dropped →
        ("primitives", Json.array (names.map .text)) ∈ default.entries := by
  have hdefault : Fields.get? default.entries "primitives" = none :=
    default.gives_entries.elementNames
  have hnone (j : Json) : ("primitives", j) ∉ default.entries := fun hm =>
    Fields.get?_eq_none_iff.1 hdefault _ hm rfl
  simp only [hnone, imp_false, kept?, ← List.contains_iff_mem]
  cases dropped.contains "primitives" with
  | true =>
      refine ⟨fun h names hnames _ => ?_, fun h => (Option.eq_none_iff_forall_ne_some.2 ?_).symm⟩
      · rw [hnames] at h
        cases h
      · exact fun names hnames => h names hnames rfl
  | false => exact iff_of_true rfl fun _ _ => nofun

/-- What holds of all entries holds of each field. -/
theorem forall_entries_iff (c : Settings) (P : String × Json → Prop) :
    (∀ e ∈ c.entries, P e) ↔
      P ("max_depth", .int c.maxDepth.toNat) ∧ P ("default_limit", .int c.defaultLimit.toNat) ∧
        P ("max_settle_rounds", .int c.maxSettleRounds.toNat) ∧
        (∀ names, c.elementNames = some names → P ("primitives", .array (names.map .text))) ∧
        (P ("value_handlers", .array (c.policy.valueTakers.toList.map .text)) ∧
          P ("prevent_default_handlers",
            .array (c.policy.defaultPreventers.toList.map .text))) ∧
        P ("conditional_name", .text c.conditionalName) ∧
        P ("data_loader_name", .text c.dataLoaderName) := by
  have hnames : (∀ e ∈ (c.elementNames.map fun names =>
      ("primitives", Json.array (names.map .text))).toList, P e) ↔
        ∀ names, c.elementNames = some names → P ("primitives", .array (names.map .text)) := by
    cases c.elementNames <;> simp
  simp only [entries, toJson, Json.entries, Policy.toEntries, List.forall_mem_append,
    List.forall_mem_cons, hnames, List.not_mem_nil, false_imp_iff, implies_true, and_true,
    and_assoc]

/-- Dropping fields changes nothing exactly if the defaults have the same entries. -/
theorem reset_eq_self_iff (c : Settings) (dropped : List String) :
    c.reset dropped = c ↔ ∀ e ∈ c.entries, e.1 ∈ dropped → e ∈ default.entries := by
  have hgives := default.gives_entries
  have hdepth := getD_kept?_eq_iff Json.int_toNat_injective hgives.maxDepth dropped
  have hlimit := getD_kept?_eq_iff Json.int_toNat_injective hgives.defaultLimit dropped
  have hrounds := getD_kept?_eq_iff Json.int_toNat_injective hgives.maxSettleRounds dropped
  have htakers := getD_kept?_eq_iff Json.array_toList_injective hgives.valueTakers dropped
  have hpreventers := getD_kept?_eq_iff Json.array_toList_injective hgives.defaultPreventers dropped
  have hconditional := getD_kept?_eq_iff Json.text_injective hgives.conditionalName dropped
  have hloader := getD_kept?_eq_iff Json.text_injective hgives.dataLoaderName dropped
  have hnames := getD_kept?_elementNames_iff c dropped
  have hparts : c.reset dropped = c ↔
      (c.reset dropped).maxDepth = c.maxDepth ∧ (c.reset dropped).defaultLimit = c.defaultLimit ∧
        (c.reset dropped).maxSettleRounds = c.maxSettleRounds ∧
        (c.reset dropped).elementNames = c.elementNames ∧
        ((c.reset dropped).policy.valueTakers = c.policy.valueTakers ∧
          (c.reset dropped).policy.defaultPreventers = c.policy.defaultPreventers) ∧
        (c.reset dropped).conditionalName = c.conditionalName ∧
        (c.reset dropped).dataLoaderName = c.dataLoaderName := by
    obtain ⟨_, _, _, _, ⟨_, _⟩, _, _⟩ := c
    simp only [reset, Settings.mk.injEq, Policy.mk.injEq]
  rw [hparts, forall_entries_iff]
  simp only [reset, hdepth, hlimit, hrounds, htakers, hpreventers, hconditional, hloader, hnames]

/-! ### Texts -/

/-- What is left of the document of some settings is read from its text. -/
theorem parse?_without (c : Settings) (dropped : List String) :
    Json.parse? Json.maxLevels (c.without dropped).render = some (c.without dropped) := by
  have hentries : ∀ e ∈ c.entries, Json.Readable 126 e.2 :=
    (c.forall_entries_iff _).2 ⟨.word _, .word _, .word _, fun names _ => .texts names,
      ⟨.texts _, .texts _⟩, .text _, .text _⟩
  exact Json.parse?_render (.object fun e he => hentries e (List.mem_of_mem_filter he))

/-- A limit of some settings. -/
def limit (c : Settings) : LimitField → UInt64
  | .maxDepth => c.maxDepth
  | .defaultLimit => c.defaultLimit
  | .maxSettleRounds => c.maxSettleRounds

theorem fault?_eq_none {c : Settings} (h : ∀ field, c.limit field ≠ 0) : c.fault? = none := by
  have hdepth : c.maxDepth ≠ 0 := h .maxDepth
  have hlimit : c.defaultLimit ≠ 0 := h .defaultLimit
  have hrounds : c.maxSettleRounds ≠ 0 := h .maxSettleRounds
  rw [fault?, if_neg hdepth, if_neg hlimit, if_neg hrounds]

/-- A limit of 0 is reported, or one before it. -/
theorem exists_fault? {c : Settings} (h : ∃ field, c.limit field = 0) :
    ∃ field, c.limit field = 0 ∧ c.fault? = some (.zero field) := by
  rw [fault?]
  split
  · next hdepth => exact ⟨.maxDepth, hdepth, rfl⟩
  · split
    · next hlimit => exact ⟨.defaultLimit, hlimit, rfl⟩
    · split
      · next hrounds => exact ⟨.maxSettleRounds, hrounds, rfl⟩
      · next hdepth hlimit hrounds =>
          obtain ⟨field, hzero⟩ := h
          cases field
          · exact absurd hzero hdepth
          · exact absurd hzero hlimit
          · exact absurd hzero hrounds

section Text

variable {text : String} {j : Json} {c : Settings}
  (htext : Json.parse? Json.maxLevels text = some j) (hc : ofJson j = .ok c)

include htext hc

theorem parse_eq_ok (hfault : c.fault? = none) : parse text = .ok c := by
  rw [parse, htext]
  simp only [ofDocument, hc, hfault]

theorem parse_eq_error {fault : SettingsFault} (hfault : c.fault? = some fault) :
    parse text = .error fault := by
  rw [parse, htext]
  simp only [ofDocument, hc, hfault]

/-- A text gives no other settings than its document does. -/
theorem eq_of_parse_eq_ok {d : Settings} (h : parse text = .ok d) : c = d := by
  cases hfault : c.fault? with
  | none => exact Except.ok.inj ((parse_eq_ok htext hc hfault).symm.trans h)
  | some fault => cases (parse_eq_error htext hc hfault).symm.trans h

/-- A limit of 0 is a fault of the text. -/
theorem parse_of_limit_eq_zero (h : ∃ field, c.limit field = 0) :
    ∃ field, c.limit field = 0 ∧ parse text = .error (.zero field) := by
  obtain ⟨field, hzero, hfault⟩ := exists_fault? h
  exact ⟨field, hzero, parse_eq_error htext hc hfault⟩

end Text

/-- **A document may leave out what has its default, and nothing else.**  Where the limits of some
settings are at least 1, the text of what is left of their document gives these settings exactly if
what is missing is what the defaults have there.  A limit of 0 is reported, in what is left of the
document of some settings and in any other text of settings. -/
theorem parse_without (c : Settings) (dropped : List String) :
    ((∀ field, c.limit field ≠ 0) →
      (parse (c.without dropped).render = .ok c ↔
        ∀ e ∈ c.entries, e.1 ∈ dropped → e ∈ default.entries)) ∧
    ((∀ e ∈ c.entries, e.1 ∈ dropped → e ∈ default.entries) → (∃ field, c.limit field = 0) →
      ∃ field, c.limit field = 0 ∧
        parse (c.without dropped).render = .error (.zero field)) ∧
    ∀ text j d, Json.parse? Json.maxLevels text = some j → ofJson j = .ok d →
      (∃ field, d.limit field = 0) →
        ∃ field, d.limit field = 0 ∧ parse text = .error (.zero field) := by
  have htext := c.parse?_without dropped
  have hread := c.ofJson_without dropped
  refine ⟨fun hlimits => ?_, fun hsame hzero => ?_, fun text j d => parse_of_limit_eq_zero⟩
  · rw [← reset_eq_self_iff]
    constructor
    · exact eq_of_parse_eq_ok htext hread
    · intro h
      rw [h] at hread
      exact parse_eq_ok htext hread (fault?_eq_none hlimits)
  · rw [(c.reset_eq_self_iff dropped).2 hsame] at hread
    exact parse_of_limit_eq_zero htext hread hzero

/-- Settings with some elements, of which not all have a name that counts, and no handlers that
suppress a default action. -/
def fewElements : Settings :=
  { default with
    maxDepth := 4
    elementNames := some ["div", "é\n"]
    policy := { Policy.default with defaultPreventers := Names.empty } }

/-- Fields of them that have their defaults, and a name that is no field. -/
def defaultFields : List String :=
  ["default_limit", "value_handlers", "data_loader_name", "theme"]

theorem forall_entries_fewElements :
    ∀ e ∈ fewElements.entries, e.1 ∈ defaultFields → e ∈ default.entries := by
  have hgives := default.gives_entries
  have hmem {name : String} {j : Json} (h : Fields.get? default.entries name = some j) :
      (name, j) ∈ default.entries := Fields.mem_of_get?_eq_some h
  refine (forall_entries_iff _ _).2 ⟨?_, fun _ => hmem hgives.defaultLimit, ?_, ?_,
    ⟨fun _ => hmem hgives.valueTakers, ?_⟩, ?_, fun _ => hmem hgives.dataLoaderName⟩
  · exact fun h => absurd h (by decide)
  · exact fun h => absurd h (by decide)
  · exact fun names _ (h : "primitives" ∈ defaultFields) => absurd h (by decide)
  · exact fun h => absurd h (by decide)
  · exact fun h => absurd h (by decide)

/-- The same settings without rounds. -/
def noRounds : Settings :=
  { fewElements with maxSettleRounds := 0 }

/-- A document with nothing but a limit of 0. -/
def noDepth : Json :=
  .object [("max_depth", .int 0)]

/-- Each limit of 0 is the one that is reported. -/
theorem parse_without_fewElements :
    (∀ field, fewElements.limit field ≠ 0) ∧
      (∀ e ∈ fewElements.entries, e.1 ∈ defaultFields → e ∈ default.entries) ∧
      parse (fewElements.without defaultFields).render = .ok fewElements ∧
      (∃ field, noRounds.limit field = 0) ∧
      parse (noRounds.without []).render = .error (.zero .maxSettleRounds) ∧
      parse noDepth.render = .error (.zero .maxDepth) := by
  have hlimits : ∀ field, fewElements.limit field ≠ 0 := fun field => by cases field <;> decide
  have hsame := forall_entries_fewElements
  have hrounds : ∃ field, noRounds.limit field = 0 := ⟨.maxSettleRounds, rfl⟩
  have hdepth : ofJson noDepth = .ok { default with maxDepth := 0 } := rfl
  have htext : Json.parse? Json.maxLevels noDepth.render = some noDepth :=
    Json.parse?_render (.object (List.forall_mem_singleton.2 (.word 0)))
  obtain ⟨field, hzero, hreport⟩ := (parse_without noRounds []).2.1 (fun _ _ => nofun) hrounds
  obtain ⟨field', hzero', hreport'⟩ := (parse_without fewElements []).2.2 _ _ _ htext hdepth
    ⟨.maxDepth, rfl⟩
  have hread := ((parse_without fewElements defaultFields).1 hlimits).2 hsame
  refine ⟨hlimits, hsame, hread, hrounds, ?_, ?_⟩
  · cases field with
    | maxSettleRounds => exact hreport
    | maxDepth | defaultLimit => exact absurd hzero (by decide)
  · cases field' with
    | maxDepth => exact hreport'
    | defaultLimit | maxSettleRounds => exact absurd hzero' (by decide)

end Settings

end ViewTree
