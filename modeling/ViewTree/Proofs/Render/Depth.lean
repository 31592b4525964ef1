import ViewTree.Proofs.Render.Reached

/-!
# Render — the limit on the depth of a surface

A node that lies more levels down than the settings admit is not rendered, and a marker with the
limit stands in its place.  Every level of a surface, a fragment or a component, is made by one
level of the definition, and turning a surface into children only takes levels away, so no surface
is higher than the levels that may be rendered.  Where the limit cut nothing off it had no bearing
on the surface, and neither has any greater one.

* `height`: how many fragments and components lie one inside the other.
* `height_renderAt_le`, `eq_of_mem_limits_renderAt`: the bound, and what the markers say.
* `renderAt_withMaxDepth`: a surface without markers is the same under every greater limit.
* `render_depth`: all of this together.
-/

namespace ViewTree

/-- The settings with another limit on the depth. -/
def Settings.withMaxDepth (settings : Settings) (maxDepth : UInt64) : Settings :=
  { settings with maxDepth := maxDepth }

namespace Surface

/-! ### Heights -/

mutual

/-- How many fragments and components lie one inside the other on the longest way down. -/
def height : Surface → Nat
  | fragment items => listHeight items + 1
  | node _ _ _ children => listHeight children + 1
  | _ => 0

/-- The greatest `height` of surfaces one after the other. -/
def listHeight : List Surface → Nat
  | [] => 0
  | s :: ss => max (height s) (listHeight ss)

end

theorem listHeight_le_iff {ss : List Surface} {n : Nat} :
    listHeight ss ≤ n ↔ ∀ s ∈ ss, s.height ≤ n := by
  induction ss with
  | nil => simp [listHeight]
  | cons s ss ih => rw [listHeight, Nat.max_le, ih, List.forall_mem_cons]

theorem listHeight_append (ss ts : List Surface) :
    listHeight (ss ++ ts) = max (listHeight ss) (listHeight ts) := by
  induction ss with
  | nil => simp [listHeight]
  | cons s ss ih => rw [List.cons_append, listHeight, listHeight, ih, Nat.max_assoc]

mutual

/-- The children of a surface are no higher than the surface. -/
theorem listHeight_asChildren_le : ∀ s : Surface, listHeight s.asChildren ≤ s.height
  | empty => Nat.zero_le _
  | fragment items => by
      rw [asChildren, height]
      exact Nat.le_succ_of_le (listHeight_listAsChildren_le items)
  | text _ | node .. | loading _ | noData _ | unknown _ | malformed _ | crashed .. | tooDeep _ =>
      Nat.le_of_eq (Nat.max_zero _)

/-- `listHeight_asChildren_le` for surfaces one after the other. -/
theorem listHeight_listAsChildren_le :
    ∀ ss : List Surface, listHeight (listAsChildren ss) ≤ listHeight ss
  | [] => Nat.le_refl _
  | s :: ss => by
      rw [listAsChildren, listHeight_append, listHeight]
      have hs := listHeight_asChildren_le s
      have hss := listHeight_listAsChildren_le ss
      omega

end

/-! ### Limits -/

/-- The limit that a surface ran into. -/
def ownLimit? : Surface → Option Nat
  | tooDeep limit => some limit
  | _ => none

/-- The limits that were run into in a surface. -/
def limits (s : Surface) : List Nat :=
  s.preorder.filterMap ownLimit?

theorem mem_limits {s : Surface} {limit : Nat} : limit ∈ s.limits ↔ tooDeep limit ∈ s.preorder := by
  rw [limits, List.mem_filterMap]
  constructor
  · rintro ⟨t, hm, ht⟩
    cases t with
    | tooDeep other => cases ht; exact hm
    | _ => cases ht
  · exact fun h => ⟨_, h, rfl⟩

theorem limits_eq_nil_iff {s : Surface} : s.limits = [] ↔ ∀ limit, tooDeep limit ∉ s.preorder := by
  simp only [List.eq_nil_iff_forall_not_mem, mem_limits]

end Surface

namespace Renderer

/-! ### How high a surface gets -/

section Height

variable {below : Below} {n : Nat} (hbelow : ∀ v scope, (below v scope).height ≤ n)

include hbelow

theorem height_optional_le (scope : Scope) (node? : Option Value) :
    (optional below scope node?).height ≤ n := by
  cases node? with
  | none => exact Nat.zero_le n
  | some node => exact hbelow node scope

theorem height_load_le (settings : Settings) (cache : Cache) (props : Fields Value)
    (scope : Scope) : (load settings cache below props scope).height ≤ n := by
  simp only [load]
  split
  · exact Nat.zero_le n
  · split
    · exact Nat.zero_le n
    · exact Nat.zero_le n
    · exact Nat.zero_le n
    · exact height_optional_le hbelow _ _

/-- A node is at most one level higher than the nodes that it renders. -/
theorem height_node_le (settings : Settings) (cache : Cache) (v : Value) (scope : Scope) :
    ((plain settings).node cache below v scope).height ≤ n + 1 := by
  rw [node]
  cases Node.ofValue v with
  | empty | scalar _ | malformed _ => exact Nat.zero_le _
  | text s =>
      simp only [leaf]
      split <;> exact Nat.zero_le _
  | sequence items =>
      refine Nat.succ_le_succ (Surface.listHeight_le_iff.2 fun s hs => ?_)
      obtain ⟨item, -, rfl⟩ := List.mem_map.1 hs
      exact hbelow item scope
  | iteration source item =>
      refine Nat.succ_le_succ (Surface.listHeight_le_iff.2 fun s hs => ?_)
      obtain ⟨p, -, rfl⟩ := List.mem_map.1 hs
      exact hbelow item _
  | component name props =>
      simp only [component]
      cases hrole : (plain settings).role name with
      | conditional => exact Nat.le_succ_of_le (height_optional_le hbelow _ _)
      | loader => exact Nat.le_succ_of_le (height_load_le hbelow _ _ _ _)
      | hosted c => exact absurd hrole (role_plain settings name c)
      | element =>
          refine Nat.succ_le_succ ?_
          exact Nat.le_trans (Surface.listHeight_asChildren_le _) (height_optional_le hbelow _ _)
      | unknown => exact Nat.zero_le _

end Height

/-- **A surface is no higher than the levels that were left for it.** -/
theorem height_renderAt_le (settings : Settings) (cache : Cache) (levels : Nat) (v : Value)
    (scope : Scope) : ((plain settings).renderAt cache levels v scope).height ≤ levels := by
  induction levels generalizing v scope with
  | zero => exact Nat.zero_le 0
  | succ levels ih => exact height_node_le ih settings cache v scope

/-! ### Where the limit shows -/

/-- No node shows a limit itself. -/
theorem filterMap_ownLimit?_shown (r : Renderer) (cache : Cache) (below : Below) (v : Value)
    (scope : Scope) : (shown r cache below v scope).filterMap Surface.ownLimit? = [] := by
  simp only [shown]
  cases Node.ofValue v with
  | empty | scalar _ | malformed _ | sequence _ | iteration _ _ => rfl
  | text s =>
      simp only [leaf]
      split <;> rfl
  | component name props =>
      simp only
      cases r.role name with
      | loader => exact filterMap_loaderShown_eq_nil (fun _ => rfl) (fun _ => rfl) _ _ _ _
      | conditional | hosted _ | element | unknown => rfl

theorem limits_node_eq (settings : Settings) (cache : Cache) (below : Below) (v : Value)
    (scope : Scope) :
    ((plain settings).node cache below v scope).limits =
      (visits (plain settings) cache v scope).flatMap fun w => (below w.1 w.2).limits := by
  rw [Surface.limits, filterMap_node_eq rfl fun _ => rfl, filterMap_ownLimit?_shown]
  rfl

/-- Every marker of a surface has the limit of the settings. -/
theorem eq_of_mem_limits_renderAt {settings : Settings} {cache : Cache} {levels : Nat} {v : Value}
    {scope : Scope} {limit : Nat}
    (h : limit ∈ ((plain settings).renderAt cache levels v scope).limits) :
    limit = settings.maxDepth.toNat := by
  induction levels generalizing v scope with
  | zero => exact List.mem_singleton.1 h
  | succ levels ih =>
      rw [renderAt, limits_node_eq, List.mem_flatMap] at h
      obtain ⟨w, -, hw⟩ := h
      exact ih hw

/-! ### Greater limits -/

/-- One level is rendered without regard to the limit. -/
theorem node_withMaxDepth (settings : Settings) (maxDepth : UInt64) (cache : Cache) (below : Below)
    (v : Value) (scope : Scope) :
    (plain (settings.withMaxDepth maxDepth)).node cache below v scope =
      (plain settings).node cache below v scope := rfl

/-- **A surface without markers is the same with more levels left**, whatever limit a marker would
have. -/
theorem renderAt_withMaxDepth {settings : Settings} {cache : Cache} {levels more : Nat} {v : Value}
    {scope : Scope} (h : ((plain settings).renderAt cache levels v scope).limits = [])
    (hle : levels ≤ more) (maxDepth : UInt64) :
    (plain (settings.withMaxDepth maxDepth)).renderAt cache more v scope =
      (plain settings).renderAt cache levels v scope := by
  induction levels generalizing more v scope with
  | zero => cases h
  | succ levels ih =>
      obtain ⟨rest, rfl⟩ : ∃ rest, more = rest + 1 := Nat.exists_eq_add_of_le' (by omega)
      rw [renderAt, limits_node_eq, List.flatMap_eq_nil_iff] at h
      rw [renderAt, node_withMaxDepth, renderAt]
      refine node_eq_of_agree (fun _ _ => rfl) ?_
      intro w hw
      exact ih (h w hw) (Nat.le_of_succ_le_succ hle)

/-- **The limit on the depth is kept and leaves no other trace.**  Without components of the host,
at most one more fragment or component than the limit lies inside another, every marker has the
limit, and a surface without markers is the same under every greater limit. -/
theorem render_depth (settings : Settings) (cache : Cache) (v : Value) (scope : Scope) :
    ((plain settings).render cache v scope).height ≤ settings.maxDepth.toNat + 1 ∧
    (∀ limit, .tooDeep limit ∈ ((plain settings).render cache v scope).preorder →
      limit = settings.maxDepth.toNat) ∧
    ∀ maxDepth : UInt64, settings.maxDepth ≤ maxDepth →
      (∀ limit, .tooDeep limit ∉ ((plain settings).render cache v scope).preorder) →
      (plain (settings.withMaxDepth maxDepth)).render cache v scope =
        (plain settings).render cache v scope := by
  refine ⟨height_renderAt_le settings cache _ v scope, ?_, ?_⟩
  · intro limit h
    exact eq_of_mem_limits_renderAt (Surface.mem_limits.2 h)
  · intro maxDepth hle h
    have hlevels : settings.maxDepth.toNat + 1 ≤ maxDepth.toNat + 1 :=
      Nat.succ_le_succ (UInt64.le_iff_toNat_le.1 hle)
    exact renderAt_withMaxDepth (Surface.limits_eq_nil_iff.2 h) hlevels maxDepth

/-- An element around a loader for each of two records. -/
def twoShelves : Value :=
  .record [("div", .record [("children", .record [("for_each", .list [.text "a", .text "b"]),
    ("render_item", loaderOf "\x7b\x7bitem\x7d\x7d" (.text "\x7b\x7bdata\x7d\x7d"))])])]

/-- What the two loaders ask for. -/
def stocked : Cache :=
  (Cache.empty.insert (Request.one "a").key (.ready (.text "apples"))).insert
    (Request.one "b").key (.ready (.text "bread"))

/-- Four levels are just enough for them, and with one level less both answers are cut off. -/
theorem render_depth_twoShelves :
    ((plain (Settings.default.withMaxDepth 2)).render stocked twoShelves .empty).limits = [2, 2] ∧
    (∀ limit, .tooDeep limit ∉
      ((plain (Settings.default.withMaxDepth 3)).render stocked twoShelves .empty).preorder) ∧
    ((plain (Settings.default.withMaxDepth 3)).render stocked twoShelves .empty).height ≤ 4 ∧
    (plain .default).render stocked twoShelves .empty =
      (plain (Settings.default.withMaxDepth 3)).render stocked twoShelves .empty := by
  have hnone : ∀ limit, .tooDeep limit ∉
      ((plain (Settings.default.withMaxDepth 3)).render stocked twoShelves .empty).preorder :=
    Surface.limits_eq_nil_iff.1 (by decide +kernel)
  obtain ⟨hheight, -, hsame⟩ :=
    render_depth (Settings.default.withMaxDepth 3) stocked twoShelves .empty
  exact ⟨by decide +kernel, hnone, hheight, hsame 64 (by decide) hnone⟩

end Renderer

end ViewTree
