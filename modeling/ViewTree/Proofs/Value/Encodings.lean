import ViewTree.Proofs.Data.Nesting
import ViewTree.Value.Json

/-!
# Value — the two ways to write a value

A value is written directly or through its document, by two recursions that decide on their own how
numbers and `undefined` are written.  They agree on every value (`write_toJson`), and it makes no
difference to the text if the document keeps its objects in the order of their names, as long as the
records of the value are in that order (`sorted_toJson`).
-/

namespace ViewTree

/-- A table in order is put in order as it is. -/
theorem Fields.Ordered.ofList_eq {α : Type} {fs : Fields α} (h : Ordered fs) : ofList fs = fs := by
  refine (ordered_ofList fs).ext h fun name => ?_
  rw [get?_ofList, get?_reverse h.distinct]

/-- A number that is not finite is written as null. -/
theorem Json.writeReal_of_isFinite_eq_false {x : Float} (h : x.isFinite = false) :
    writeReal x = writeNull := by
  rw [writeReal]
  split
  · next b hb =>
      rw [Number.isFinite_iff_decode.2 ⟨b, hb⟩] at h
      cases h
  · rfl

namespace Value

/-! ### Through the document -/

/-- A number is written like its document: as an integer, as a number with a fraction, or as
null. -/
theorem write_jsonNumber (x : Float) : (jsonNumber x).write = writeNumber x := by
  rw [jsonNumber, writeNumber]
  cases Number.integerBelow? integerBound x with
  | some n => rfl
  | none =>
      cases hfinite : x.isFinite with
      | true => rfl
      | false => exact (Json.writeReal_of_isFinite_eq_false hfinite).symm

mutual

/-- The text of the document of a value is that of the value. -/
theorem write_toJson : ∀ v : Value, v.toJson.write = v.write
  | undefined | null | bool _ | text _ => rfl
  | number x => write_jsonNumber x
  | list items => by rw [toJson, Json.write, write, writeItems_itemsToJson items]
  | record fields => by rw [toJson, Json.write, write, writeEntries_fieldsToJson fields]

/-- `write_toJson` for the items of a list. -/
theorem writeItems_itemsToJson :
    ∀ items : List Value, Json.writeItems (itemsToJson items) = writeItems items
  | [] => rfl
  | v :: vs => by
      rw [itemsToJson, Json.writeItems, writeItems, write_toJson v, writeItems_itemsToJson vs]

/-- `write_toJson` for the fields of a record. -/
theorem writeEntries_fieldsToJson :
    ∀ fields : List (String × Value), Json.writeEntries (fieldsToJson fields) = writeFields fields
  | [] => rfl
  | (name, v) :: fs => by
      rw [fieldsToJson, Json.writeEntries, writeFields, write_toJson v,
        writeEntries_fieldsToJson fs]

end

/-! ### Values in order -/

/-- The records in a value, at any depth, are in the order of their names. -/
inductive InOrder : Value → Prop where
  | undefined : InOrder undefined
  | null : InOrder null
  | bool (b : Bool) : InOrder (bool b)
  | number (x : Float) : InOrder (number x)
  | text (s : String) : InOrder (text s)
  | list {items : List Value} (h : ∀ v ∈ items, InOrder v) : InOrder (list items)
  | record {fields : List (String × Value)} (hnames : Fields.Ordered fields)
      (h : ∀ f ∈ fields, InOrder f.2) : InOrder (record fields)

theorem sorted_jsonNumber (x : Float) : (jsonNumber x).sorted = jsonNumber x := by
  rw [jsonNumber]
  split
  · rfl
  · split <;> rfl

theorem ordered_fieldsToJson {fields : Fields Value} (h : Fields.Ordered fields) :
    Fields.Ordered (fieldsToJson fields) := by
  refine h.of_keys_eq ?_
  rw [fieldsToJson_eq, Fields.keys_map]

/-- The documents of the items are in order if each of them is. -/
theorem sortedItems_itemsToJson {items : List Value}
    (h : ∀ v ∈ items, v.toJson.sorted = v.toJson) :
    Json.sortedItems (itemsToJson items) = itemsToJson items := by
  induction items with
  | nil => rfl
  | cons v vs ih =>
      obtain ⟨hv, hvs⟩ := List.forall_mem_cons.1 h
      rw [itemsToJson, Json.sortedItems, hv, ih hvs]

/-- The documents of the fields are in order if each of them is. -/
theorem sortedEntries_fieldsToJson {fields : List (String × Value)}
    (h : ∀ f ∈ fields, f.2.toJson.sorted = f.2.toJson) :
    Json.sortedEntries (fieldsToJson fields) = fieldsToJson fields := by
  induction fields with
  | nil => rfl
  | cons f fs ih =>
      obtain ⟨hf, hfs⟩ := List.forall_mem_cons.1 h
      rw [fieldsToJson, Json.sortedEntries, hf, ih hfs]

/-- The document of a value in order has its objects in order. -/
theorem sorted_toJson {v : Value} (h : v.InOrder) : v.toJson.sorted = v.toJson := by
  induction h with
  | undefined | null | bool _ | text _ => rfl
  | number x => exact sorted_jsonNumber x
  | list _ ih => rw [toJson, Json.sorted, sortedItems_itemsToJson ih]
  | record hnames _ ih =>
      rw [toJson, Json.sorted, sortedEntries_fieldsToJson ih,
        (ordered_fieldsToJson hnames).ofList_eq]

/-- **The two ways to write a value agree.**  The compact text of its document is the one that is
written directly, whatever the value holds at any depth; and keeping the objects of the document in
the order of their names changes nothing for a value whose records are in that order. -/
theorem writes_agree (v : Value) :
    v.toJson.write = v.write ∧ (v.InOrder → v.toJson.sorted.write = v.write) := by
  refine ⟨write_toJson v, fun h => ?_⟩
  rw [sorted_toJson h, write_toJson]

/-- Two levels of what either way has to decide on: `undefined`, numbers that are not finite, a
negative zero, and integral numbers on both sides of the bound for integers. -/
def oddValue : Value :=
  .record [("a", .list [.undefined, .number Number.nan, .number (-Number.infinity)]),
    ("b", .record [("c", .number (-0.0)), ("d", .number 8999999999999999),
      ("e", .number 9000000000000000)])]

/-- The compact text of `oddValue`. -/
def oddText : String :=
  "\x7b\"a\":[null,null,null],\"b\":\x7b\"c\":0,\"d\":8999999999999999," ++
    "\"e\":9000000000000000.0\x7d\x7d"

theorem inOrder_oddValue : oddValue.InOrder := by
  have hitems : InOrder (.list [.undefined, .number Number.nan, .number (-Number.infinity)]) := by
    refine .list (List.forall_mem_cons.2 ⟨.undefined, ?_⟩)
    exact List.forall_mem_cons.2 ⟨.number _, List.forall_mem_singleton.2 (.number _)⟩
  have hnumbers : InOrder (.record [("c", .number (-0.0)), ("d", .number 8999999999999999),
      ("e", .number 9000000000000000)]) := by
    refine .record (by rw [Fields.Ordered]; decide) (List.forall_mem_cons.2 ⟨.number _, ?_⟩)
    exact List.forall_mem_cons.2 ⟨.number _, List.forall_mem_singleton.2 (.number _)⟩
  refine .record (by rw [Fields.Ordered]; decide) (List.forall_mem_cons.2 ⟨hitems, ?_⟩)
  exact List.forall_mem_singleton.2 hnumbers

/-- The negative zero loses its sign, and the number at the bound is not an integer any more. -/
theorem writes_agree_oddValue :
    oddValue.InOrder ∧ oddValue.toJson.sorted.write = oddText.toList := by
  have hwrite : oddValue.write = oddText.toList := by decide +kernel
  exact ⟨inOrder_oddValue, ((writes_agree oddValue).2 inOrder_oddValue).trans hwrite⟩

end Value

end ViewTree
