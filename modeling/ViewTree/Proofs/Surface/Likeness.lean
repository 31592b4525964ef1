import Mathlib.Data.List.Forall2
import ViewTree.Proofs.Surface.Documents

/-!
# Surface — what the document of a surface tells

A host has nothing of a surface but its document, so it has to tell from it what to show.  The form
of a document, and for an object one name in it, tells the kind of its surface.  All that is lost is
what a document has no place for: how a value differs from another one with the same document, and
what a handler keeps besides its descriptor and its arguments.

* `Alike`: surfaces that differ in no more than that.
* `kind?_toJson`: a document tells the kind of its surface.
* `toJson_node_eq_iff`: that of a component tells its parts, also those that are left out.
* `toJson_eq_iff_alike`: surfaces have one document exactly if they are alike.
-/

namespace ViewTree

/-! ### Tables with related entries -/

namespace Fields

variable {α β γ : Type}

/-- Tables with the same names and related entries under each of them. -/
def Related (R : α → β → Prop) (fs : Fields α) (gs : Fields β) : Prop :=
  List.Forall₂ (fun f g => f.1 = g.1 ∧ R f.2 g.2) fs gs

/-- Tables become one when their entries are changed if they are related by what is made of their
entries. -/
theorem map_eq_map_iff (made : α → γ) (fs gs : Fields α) :
    (fs.map fun f => (f.1, made f.2)) = (gs.map fun g => (g.1, made g.2)) ↔
      Related (fun a b => made a = made b) fs gs := by
  rw [← List.forall₂_eq_eq_eq, List.forall₂_map_left_iff, List.forall₂_map_right_iff, Related]
  simp only [Prod.mk.injEq]

end Fields

/-! ### Handlers -/

/-- Handlers whose descriptors and whose arguments have the same documents. -/
structure Handler.Alike (h k : Handler) : Prop where
  descriptor : h.descriptor.toValue.toJson = k.descriptor.toValue.toJson
  captured : (Value.record h.captured).toJson = (Value.record k.captured).toJson

theorem Handler.toJson_eq_iff {h k : Handler} : h.toJson = k.toJson ↔ h.Alike k := by
  simp only [Handler.toJson, Json.object.injEq, List.cons.injEq, Prod.mk.injEq, true_and, and_true]
  exact ⟨fun ⟨hargs, hdescriptor⟩ => ⟨hdescriptor, hargs⟩, fun h => ⟨h.captured, h.descriptor⟩⟩

namespace Surface

theorem handlersToJson_eq_iff {hs ks : Fields Handler} :
    handlersToJson hs = handlersToJson ks ↔ Fields.Related Handler.Alike hs ks := by
  simp only [Fields.Related, ← Handler.toJson_eq_iff]
  exact Fields.map_eq_map_iff Handler.toJson hs ks

theorem fieldsToJson_eq_iff {ps qs : Fields Value} :
    Value.fieldsToJson ps = Value.fieldsToJson qs ↔
      Fields.Related (fun v w => v.toJson = w.toJson) ps qs := by
  rw [Value.fieldsToJson_eq, Value.fieldsToJson_eq]
  exact Fields.map_eq_map_iff Value.toJson ps qs

/-! ### Surfaces that are alike -/

/-- Surfaces that differ in nothing but what a document has no place for. -/
inductive Alike : Surface → Surface → Prop where
  | empty : Alike empty empty
  | text (s : String) : Alike (text s) (text s)
  | fragment {ss ts : List Surface} (items : List.Forall₂ Alike ss ts) :
      Alike (fragment ss) (fragment ts)
  /-- Components with the same name, props of the same documents and like handlers under the same
  names, and like children. -/
  | node (component : String) {ps qs : Fields Value} {hs ks : Fields Handler}
      {ss ts : List Surface} (props : Fields.Related (fun v w => v.toJson = w.toJson) ps qs)
      (handlers : Fields.Related Handler.Alike hs ks) (children : List.Forall₂ Alike ss ts) :
      Alike (node component ps hs ss) (node component qs ks ts)
  | loading {q r : Request} (key : q.key = r.key) : Alike (loading q) (loading r)
  | noData (message : String) : Alike (noData message) (noData message)
  | unknown (name : String) : Alike (unknown name) (unknown name)
  | malformed (reason : String) : Alike (malformed reason) (malformed reason)
  | crashed (name message : String) : Alike (crashed name message) (crashed name message)
  | tooDeep (limit : Nat) : Alike (tooDeep limit) (tooDeep limit)

/-! ### The kind of a surface -/

/-- The kinds of surfaces. -/
inductive Kind where
  | empty | text | fragment | node | loading | noData | unknown | malformed | crashed | tooDeep
deriving DecidableEq, Repr

/-- The kind of a surface. -/
def kind : Surface → Kind
  | empty => .empty
  | text _ => .text
  | fragment _ => .fragment
  | node .. => .node
  | loading _ => .loading
  | noData _ => .noData
  | unknown _ => .unknown
  | malformed _ => .malformed
  | crashed .. => .crashed
  | tooDeep _ => .tooDeep

/-- The names by which an object shows its kind. -/
def kindNames : List (String × Kind) :=
  [("component", .node), ("loading", .loading), ("error", .noData), ("unknown", .unknown),
    ("malformed", .malformed), ("failed", .crashed), ("depth_exceeded", .tooDeep)]

end Surface

/-- The kind of the surface that a document is of. -/
def Json.kind? : Json → Option Surface.Kind
  | .null => some .empty
  | .text _ => some .text
  | .array _ => some .fragment
  | .object entries =>
    (Surface.kindNames.find? fun k => Fields.contains entries k.1).map fun k => k.2
  | _ => none

namespace Surface

/-! ### The document of a component -/

theorem get?_fieldUnless (omitted : Bool) (name other : String) (j : Json) :
    Fields.get? (fieldUnless omitted name j) other =
      if name = other ∧ omitted = false then some j else none := by
  cases omitted with
  | true => simp [fieldUnless]
  | false => simp [fieldUnless, Fields.get?_cons]

/-- A part that is left out when nothing is in it still tells what documents are in it. -/
theorem map_eq_of_part {α : Type} {f : α → γ} {part : List γ → Json}
    (hpart : Function.Injective part) {as bs : List α}
    (h : (if as = [] then none else some (part (as.map f))) =
      if bs = [] then none else some (part (bs.map f))) :
    as.map f = bs.map f := by
  cases as with
  | nil =>
      cases bs with
      | nil => rfl
      | cons b bs => cases h
  | cons a as =>
      cases bs with
      | nil => cases h
      | cons b bs => exact hpart (Option.some.inj h)

/-- The document of a component tells its name and the documents of its parts. -/
theorem toJson_node_eq_iff {c d : String} {ps qs : Fields Value} {hs ks : Fields Handler}
    {ss ts : List Surface} :
    (node c ps hs ss).toJson = (node d qs ks ts).toJson ↔
      c = d ∧ Value.fieldsToJson ps = Value.fieldsToJson qs ∧
        handlersToJson hs = handlersToJson ks ∧ listToJson ss = listToJson ts := by
  constructor
  · intro h
    rw [toJson, toJson, Json.object.injEq] at h
    have hentry (name : String) := congrArg (fun entries => Fields.get? entries name) h
    simp only [Fields.get?_append, Fields.get?_cons, Fields.get?_nil, get?_fieldUnless,
      handlersToJson, listToJson_eq] at hentry
    have hcomponent : c = d := by simpa using hentry "component"
    have hprops : Value.fieldsToJson ps = Value.fieldsToJson qs := by
      simpa using hentry "props"
    have hhandlers : handlersToJson hs = handlersToJson ks :=
      map_eq_of_part (fun _ _ => Json.object.inj) (by simpa using hentry "handlers")
    have hchildren : ss.map toJson = ts.map toJson :=
      map_eq_of_part (fun _ _ => Json.array.inj) (by simpa using hentry "children")
    exact ⟨hcomponent, hprops, hhandlers, by rwa [listToJson_eq, listToJson_eq]⟩
  · rintro ⟨rfl, hprops, hhandlers, hchildren⟩
    rw [toJson_node_congr hhandlers hchildren, toJson, toJson, hprops]

theorem kind?_toJson (s : Surface) : s.toJson.kind? = some s.kind := by
  cases s with
  | node component props handlers children =>
      rw [toJson, Json.kind?, kindNames, List.find?_cons_of_pos]
      · rfl
      · simp [Fields.contains, Fields.get?_append, Fields.get?_cons, get?_fieldUnless]
  | _ => rfl

/-- Surfaces with one document are of one kind. -/
theorem kind_eq_of_toJson_eq {s t : Surface} (h : s.toJson = t.toJson) : s.kind = t.kind := by
  have hkind := congrArg Json.kind? h
  rwa [kind?_toJson, kind?_toJson, Option.some_inj] at hkind

/-! ### Surfaces with one document -/

/-- An object with one text in it tells the text. -/
theorem object_text_inj {name s t : String} :
    Json.object [(name, .text s)] = .object [(name, .text t)] ↔ s = t := by
  simp

mutual

/-- Surfaces with one document are alike. -/
theorem alike_of_toJson_eq : ∀ {s t : Surface}, s.toJson = t.toJson → s.Alike t
  | empty, t, h => by
      cases t with
      | empty => exact .empty
      | _ => exact nomatch kind_eq_of_toJson_eq h
  | text s, t, h => by
      cases t with
      | text u =>
          cases h
          exact .text s
      | _ => exact nomatch kind_eq_of_toJson_eq h
  | fragment ss, t, h => by
      cases t with
      | fragment ts => exact .fragment (forall₂_of_listToJson_eq (Json.array.inj h))
      | _ => exact nomatch kind_eq_of_toJson_eq h
  | node c ps hs ss, t, h => by
      cases t with
      | node d qs ks ts =>
          obtain ⟨rfl, hprops, hhandlers, hchildren⟩ := toJson_node_eq_iff.1 h
          exact .node c (fieldsToJson_eq_iff.1 hprops) (handlersToJson_eq_iff.1 hhandlers)
            (forall₂_of_listToJson_eq hchildren)
      | _ => exact nomatch kind_eq_of_toJson_eq h
  | loading q, t, h => by
      cases t with
      | loading r => exact .loading (object_text_inj.1 h)
      | _ => exact nomatch kind_eq_of_toJson_eq h
  | noData message, t, h => by
      cases t with
      | noData other =>
          cases object_text_inj.1 h
          exact .noData message
      | _ => exact nomatch kind_eq_of_toJson_eq h
  | unknown name, t, h => by
      cases t with
      | unknown other =>
          cases object_text_inj.1 h
          exact .unknown name
      | _ => exact nomatch kind_eq_of_toJson_eq h
  | malformed reason, t, h => by
      cases t with
      | malformed other =>
          cases object_text_inj.1 h
          exact .malformed reason
      | _ => exact nomatch kind_eq_of_toJson_eq h
  | crashed name message, t, h => by
      cases t with
      | crashed other news =>
          cases h
          exact .crashed name message
      | _ => exact nomatch kind_eq_of_toJson_eq h
  | tooDeep limit, t, h => by
      cases t with
      | tooDeep other =>
          cases h
          exact .tooDeep limit
      | _ => exact nomatch kind_eq_of_toJson_eq h

/-- `alike_of_toJson_eq` for surfaces one after the other. -/
theorem forall₂_of_listToJson_eq :
    ∀ {ss ts : List Surface}, listToJson ss = listToJson ts → List.Forall₂ Alike ss ts
  | [], [], _ => .nil
  | [], _ :: _, h => nomatch h
  | _ :: _, [], h => nomatch h
  | _ :: _, _ :: _, h =>
      .cons (alike_of_toJson_eq (List.cons.inj h).1) (forall₂_of_listToJson_eq (List.cons.inj h).2)

end

mutual

/-- Surfaces that are alike have one document. -/
theorem Alike.toJson_eq : ∀ {s t : Surface}, s.Alike t → s.toJson = t.toJson
  | _, _, .empty | _, _, .text _ | _, _, .noData _ | _, _, .unknown _ | _, _, .malformed _
  | _, _, .crashed .. | _, _, .tooDeep _ => rfl
  | _, _, .loading key => object_text_inj.2 key
  | _, _, .fragment items => congrArg Json.array (listToJson_eq_of_forall₂ items)
  | _, _, .node _ props handlers children =>
      toJson_node_eq_iff.2 ⟨rfl, fieldsToJson_eq_iff.2 props, handlersToJson_eq_iff.2 handlers,
        listToJson_eq_of_forall₂ children⟩

/-- `Alike.toJson_eq` for surfaces one after the other. -/
theorem listToJson_eq_of_forall₂ :
    ∀ {ss ts : List Surface}, List.Forall₂ Alike ss ts → listToJson ss = listToJson ts
  | _, _, .nil => rfl
  | _, _, .cons h hs => congrArg₂ List.cons h.toJson_eq (listToJson_eq_of_forall₂ hs)

end

/-- **The document of a surface is unambiguous.**  Two surfaces have one document exactly if they
are alike: at every position they are of one kind and have the same texts, names, messages, limits
and keys, and props, arguments and descriptors with the same documents. -/
theorem toJson_eq_iff_alike (s t : Surface) : s.toJson = t.toJson ↔ s.Alike t :=
  ⟨alike_of_toJson_eq, Alike.toJson_eq⟩

end Surface

end ViewTree
