import ViewTree.Proofs.Path.Grammar

/-!
# Scope — scopes that agree on a text

Two scopes agree on a text when every name that occurs in it stands for the same in both.  A part
of the text has fewer names in it, and bindings laid over both scopes keep the agreement
(`AgreeOn.mono`, `AgreeOn.layer`).  A path reads one name, which stands at its front, so scopes
that agree on a path give it the same value (`AgreeOn.lookup_eq`).
-/

namespace ViewTree

/-- Every name that occurs in a text stands for the same in both scopes. -/
def Scope.AgreeOn (s t : Scope) (text : List Char) : Prop :=
  ∀ name : String, name.toList <:+: text → s.get? name = t.get? name

/-- A binding leaves all other names as they were. -/
theorem Scope.get?_bind_of_ne (s : Scope) {name other : String} (value : Value)
    (h : name ≠ other) : (s.bind name value).get? other = s.get? other := by
  rw [bind, get?_layer, Fields.get?_ofList, List.reverse_singleton, Fields.get?_cons, if_neg h]
  rfl

namespace Scope.AgreeOn

variable {s t : Scope} {text : List Char}

theorem mono (h : s.AgreeOn t text) {part : List Char} (hp : part <:+: text) : s.AgreeOn t part :=
  fun name hn => h name (hn.trans hp)

theorem layer (h : s.AgreeOn t text) (bindings : List (String × Value)) :
    (s.layer bindings).AgreeOn (t.layer bindings) text := by
  intro name hn
  rw [get?_layer, get?_layer, h name hn]

theorem lookup_eq (h : s.AgreeOn t text) : s.lookup text = t.lookup text := by
  rw [lookup, lookup]
  cases hp : Path.parse? text with
  | none => rfl
  | some steps =>
      obtain ⟨name, rest, rfl, hn⟩ := Path.exists_of_parse? hp
      simp only [follow, h name hn]

end Scope.AgreeOn

end ViewTree
