import ViewTree.Calc.Evaluation
import ViewTree.Proofs.Calc.Layout

/-!
# Calc — the paths of a calculation

A calculation reads the scope through the paths in its term only, and each of them is spelled in
its text.

* `Term.Sourced`: a term read from tokens has no paths but those among the tokens; every reader of
  terms has this property.
* `Term.isInfix_of_mem_paths`: the paths of the term of a text occur in it.
* `Term.eval_congr`, `value_congr`: scopes in which the paths lead to the same give the same
  value.
* `value_of_not_accepts`: a text with a character that stands in no token is worth 0.
-/

namespace ViewTree.Calc

open Text

/-! ### How operands are read -/

namespace Term

/-- A parenthesis is closed by the token after the calculation in it. -/
theorem closed_eq_ok {ts : List Token} {inner read : Parsed Term ts}
    (h : closed inner = .ok read) :
    ∃ t, inner.rest = t :: read.rest ∧ t.kind = .sign .closing ∧ inner.value = read.value := by
  rw [closed] at h
  split at h
  · cases h
  · next t rest hrest =>
      split at h
      · next hk => cases h; exact ⟨t, hrest, hk, rfl⟩
      · cases h

/-- An operand is a number or a path, or a sign or a parenthesis before something that is read with
one level less. -/
theorem operand_cases {levels : Nat} {t : Token} {rest : List Token}
    {read : Parsed Term (t :: rest)} (h : operand levels (t :: rest) = .ok read) :
    (∃ x, t.kind = .number x ∧ read = .one (.number x)) ∨
    (∃ p, t.kind = .path p ∧ read = .one (.path p)) ∨
    ∃ deeper, levels = deeper + 1 ∧
      ((t.kind = .sign .minus ∧
          ∃ inner, operand deeper rest = .ok inner ∧ read = (inner.map negative).after) ∨
        (t.kind = .sign .plus ∧ ∃ inner, operand deeper rest = .ok inner ∧ read = inner.after) ∨
        (t.kind = .sign .opening ∧ ∃ inner, whole (operand deeper) rest = .ok inner ∧
          ∃ group, closed inner = .ok group ∧ read = group.after)) := by
  rw [operand.eq_def] at h
  cases hk : t.kind with
  | number x =>
      simp only [hk] at h
      cases h
      exact .inl ⟨x, rfl, rfl⟩
  | path p =>
      simp only [hk] at h
      cases h
      exact .inr (.inl ⟨p, rfl, rfl⟩)
  | finish => simp only [hk] at h; cases h
  | sign s =>
      cases levels with
      -- without a level left every sign is refused
      | zero => cases s <;> simp only [hk] at h <;> cases h
      | succ deeper =>
          refine .inr (.inr ⟨deeper, rfl, ?_⟩)
          cases s with
          | minus =>
              simp only [hk] at h
              obtain ⟨inner, hinner, h⟩ := exists_of_bind_eq_ok h
              cases h
              exact .inl ⟨rfl, inner, hinner, rfl⟩
          | plus =>
              simp only [hk] at h
              obtain ⟨inner, hinner, h⟩ := exists_of_bind_eq_ok h
              cases h
              exact .inr (.inl ⟨rfl, inner, hinner, rfl⟩)
          | opening =>
              simp only [hk] at h
              obtain ⟨inner, hinner, h⟩ := exists_of_bind_eq_ok h
              obtain ⟨group, hgroup, h⟩ := exists_of_bind_eq_ok h
              cases h
              exact .inr (.inr ⟨rfl, inner, hinner, group, hgroup, rfl⟩)
          | _ => simp only [hk] at h; cases h

/-- Tokens spell the term that is read from their front if nothing but the end follows. -/
theorem ofTokens_eq_ok {ts : List Token} {t : Term} (h : ofTokens ts = .ok t) :
    ∃ read, whole (operand maxLevels) ts = .ok read ∧ read.value = t ∧
      ∀ next more, read.rest = next :: more → next.kind = .finish := by
  obtain ⟨read, hread, h⟩ := exists_of_bind_eq_ok h
  split at h
  · next hrest =>
      cases h
      refine ⟨read, hread, rfl, fun next more hmore => ?_⟩
      cases hrest.symm.trans hmore
  · next next more hrest =>
      split at h
      · next hnext =>
          cases h
          refine ⟨read, hread, rfl, fun other others hmore => ?_⟩
          cases hrest.symm.trans hmore
          exact hnext
      · cases h

end Term

/-! ### The paths of a term -/

namespace Term

/-- The paths in a term. -/
def paths : Term → List String
  | number _ => []
  | path p => [p]
  | negative t => t.paths
  | binary _ left right => left.paths ++ right.paths

/-- A term read from the front of some tokens has no paths but those among them, and what follows
it is the end of them. -/
structure Sourced {ts : List Token} (read : Parsed Term ts) : Prop where
  /-- Each path is that of a token. -/
  paths : ∀ p ∈ read.value.paths, ∃ t ∈ ts, t.kind = .path p
  /-- The rest are the last tokens. -/
  rest : read.rest <:+ ts

/-- Every term that a reader reads is sourced. -/
def Reader.Sound (reader : Reader) : Prop :=
  ∀ ts read, reader ts = .ok read → Sourced read

/-- The terms before and after an operator make a sourced term. -/
theorem Sourced.binary {ts rest : List Token} {left : Parsed Term ts} {t : Token}
    {right : Parsed Term rest} (hl : Sourced left) (hrest : left.rest = t :: rest)
    (hr : Sourced right) (op : Operator) (shorter : right.rest.length < ts.length) :
    Sourced (⟨.binary op left.value right.value, right.rest, shorter⟩ : Parsed Term ts) := by
  have hsuffix : rest <:+ ts := (List.suffix_cons t rest).trans (hrest ▸ hl.rest)
  refine ⟨fun p hp => ?_, hr.rest.trans hsuffix⟩
  rcases List.mem_append.1 hp with hp | hp
  · exact hl.paths p hp
  · obtain ⟨u, hu, hk⟩ := hr.paths p hp
    exact ⟨u, hsuffix.mem hu, hk⟩

theorem sourced_chainFrom {operator? : Kind → Option Operator} {operand : Reader}
    (ho : operand.Sound) {ts : List Token} {left read : Parsed Term ts} (hl : Sourced left)
    (h : chainFrom operator? operand left = .ok read) : Sourced read := by
  -- on the tokens left: each turn reads an operator and one more operand
  fun_induction chainFrom operator? operand left with
  | case1 left hrest => cases h; exact hl
  | case2 left t rest hrest hop => cases h; exact hl
  | case3 left t rest hrest op hop ih =>
      obtain ⟨right, hright, h⟩ := exists_of_bind_eq_ok h
      exact ih right (hl.binary hrest (ho _ _ hright) op _) h

theorem Reader.Sound.chain {operand : Reader} (ho : operand.Sound)
    (operator? : Kind → Option Operator) : Reader.Sound (chain operator? operand) := by
  intro ts read h
  obtain ⟨left, hleft, h⟩ := exists_of_bind_eq_ok h
  exact sourced_chainFrom ho (ho _ _ hleft) h

theorem Reader.Sound.whole {operand : Reader} (ho : operand.Sound) :
    Reader.Sound (whole operand) :=
  (ho.chain strongOperator?).chain weakOperator?

theorem Sourced.number (t : Token) (rest : List Token) (x : Float) :
    Sourced (.one (.number x) : Parsed Term (t :: rest)) :=
  ⟨nofun, List.suffix_cons t rest⟩

theorem Sourced.path {t : Token} {p : String} (hk : t.kind = .path p) (rest : List Token) :
    Sourced (.one (.path p) : Parsed Term (t :: rest)) :=
  ⟨fun _ hq => ⟨t, .head rest, hk.trans (congrArg Kind.path (List.mem_singleton.1 hq).symm)⟩,
    List.suffix_cons t rest⟩

theorem Sourced.negative {ts : List Token} {read : Parsed Term ts} (hr : Sourced read) :
    Sourced (read.map .negative) :=
  ⟨hr.paths, hr.rest⟩

theorem sourced_closed {ts : List Token} {inner read : Parsed Term ts} (hi : Sourced inner)
    (h : closed inner = .ok read) : Sourced read := by
  obtain ⟨t, hrest, -, hvalue⟩ := closed_eq_ok h
  exact ⟨hvalue ▸ hi.paths, (List.suffix_cons t read.rest).trans (hrest ▸ hi.rest)⟩

/-- What is sourced in some tokens is sourced in more of them. -/
theorem Sourced.after {ts : List Token} {read : Parsed Term ts} (hr : Sourced read) (t : Token) :
    Sourced (read.after : Parsed Term (t :: ts)) :=
  ⟨fun p hp => let ⟨u, hu, hk⟩ := hr.paths p hp; ⟨u, .tail t hu, hk⟩,
    hr.rest.trans (List.suffix_cons t ts)⟩

/-- An operand is sourced if those are that may stand one level deeper, after a sign or between
parentheses. -/
theorem sound_operand_of {levels : Nat}
    (hdeeper : ∀ deeper, levels = deeper + 1 → Reader.Sound (operand deeper)) :
    Reader.Sound (operand levels) := by
  intro ts read h
  cases ts with
  | nil => rw [operand.eq_def] at h; cases h
  | cons t rest =>
      obtain ⟨x, -, rfl⟩ | ⟨p, hk, rfl⟩ | ⟨deeper, hlevels, h⟩ := operand_cases h
      · exact .number t rest x
      · exact .path hk rest
      · have sound := hdeeper deeper hlevels
        obtain ⟨-, inner, hinner, rfl⟩ | ⟨-, inner, hinner, rfl⟩ |
          ⟨-, inner, hinner, group, hgroup, rfl⟩ := h
        · exact (sound _ _ hinner).negative.after t
        · exact (sound _ _ hinner).after t
        · exact (sourced_closed (sound.whole _ _ hinner) hgroup).after t

/-- Operands are sourced, however deeply signs and parentheses may nest. -/
theorem sound_operand (levels : Nat) : Reader.Sound (operand levels) := by
  induction levels with
  | zero => exact sound_operand_of nofun
  | succ levels ih =>
      refine sound_operand_of fun deeper h => ?_
      cases h
      exact ih

/-- The paths of the term of a text occur in it. -/
theorem isInfix_of_mem_paths {body : List Char} {t : Term} (h : parse body = .ok t) {p : String}
    (hp : p ∈ t.paths) : p.toList <:+: body := by
  obtain ⟨ts, hts, h⟩ := exists_of_bind_eq_ok h
  obtain ⟨read, hread, rfl, -⟩ := ofTokens_eq_ok h
  obtain ⟨token, hmem, hk⟩ := ((sound_operand maxLevels).whole _ _ hread).paths p hp
  exact (Laid.of_scanFrom hts).isInfix hmem hk

/-! ### Evaluation -/

theorem operandValue_congr {s t : Scope} {p : String} (h : s.lookup p.toList = t.lookup p.toList) :
    operandValue s p = operandValue t p := by
  rw [operandValue, operandValue, h]

/-- A term reads nothing of a scope but what its paths lead to. -/
theorem eval_congr {s t : Scope} {term : Term}
    (h : ∀ p ∈ term.paths, s.lookup p.toList = t.lookup p.toList) :
    term.eval s = term.eval t := by
  induction term with
  | number x => rfl
  | path p => exact operandValue_congr (h p (.head _))
  | negative inner ih => rw [eval, eval, ih h]
  | binary op left right ihl ihr =>
      rw [eval, eval, ihl fun p hp => h p (List.mem_append_left _ hp),
        ihr fun p hp => h p (List.mem_append_right _ hp)]

end Term

/-- A calculation reads nothing of a scope but what the parts of its text lead to. -/
theorem value_congr {s t : Scope} {body : List Char}
    (h : ∀ path : List Char, path <:+: body → s.lookup path = t.lookup path) :
    value s body = value t body := by
  have hrun : run s body = run t body := by
    rw [run, run]
    cases hp : Term.parse body with
    | error fault => rfl
    | ok term => exact Term.eval_congr fun p hm => h _ (Term.isInfix_of_mem_paths hp hm)
  rw [value, value, hrun]

/-- A text with a character that stands in no token has no tokens, and is worth 0. -/
theorem value_of_not_accepts {body : List Char} {c : Char} (hc : c ∈ body)
    (h : Token.accepts c = false) (scope : Scope) : value scope body = 0 := by
  rw [value, run, Term.parse]
  cases hscan : Token.scan body with
  | error fault => rfl
  | ok ts =>
      rw [(Laid.of_scanFrom hscan).accepts hc] at h
      cases h

end ViewTree.Calc
