import ViewTree.Proofs.Calc.Grammar
import ViewTree.Proofs.Expression.Comparisons
import ViewTree.Proofs.Path.Grammar

/-!
# Calc — a path alone in a calculation

A calculation that is nothing but a path is worth the number at the end of the path if the path is
one token.  Signs and blanks would take a path apart and a digit at its front would start a number;
of the `Bare` paths, which have none of these, those in ASCII are one token and all others have a
character that stands in no token (`eval_calc_bare`).
-/

namespace ViewTree.Calc

open Text
open ViewTree.Path

/-! ### Characters -/

theorem toNat_lt_of_isAlphanum {c : Char} (h : c.isAlphanum = true) : c.toNat < 0x80 := by
  rcases Bool.or_eq_true_iff.1 h with halpha | hdigit
  · have hrange := toNat_of_isAlpha halpha
    omega
  · have hrange := toNat_of_isDigit hdigit
    omega

namespace Token

/-- The characters between and in tokens are ASCII. -/
theorem toNat_lt_of_accepts {c : Char} (h : accepts c = true) : c.toNat < 0x80 := by
  simp only [accepts, Bool.or_eq_true] at h
  rcases h with ((hlayout | hsign) | hnumber) | hpath
  · simp only [isLayout, Bool.or_eq_true, beq_iff_eq] at hlayout
    rcases hlayout with (((rfl | rfl) | rfl) | rfl) | rfl <;> decide
  · obtain ⟨sign, hsign⟩ := Option.isSome_iff_exists.1 hsign
    rw [← Sign.char_of_ofChar? hsign]
    cases sign <;> decide
  · simp only [startsNumber, Bool.or_eq_true, beq_iff_eq] at hnumber
    rcases hnumber with hdigit | rfl
    · exact toNat_lt_of_isAlphanum (by rw [Char.isAlphanum, hdigit, Bool.or_true])
    · decide
  · simp only [continuesPath, Bool.or_eq_true, beq_iff_eq] at hpath
    rcases hpath with ((((halphanum | rfl) | rfl) | rfl) | rfl) | rfl
    · exact toNat_lt_of_isAlphanum halphanum
    all_goals decide

/-- The key characters in ASCII, the minus sign apart. -/
theorem cases_of_isKeyChar {c : Char} (h : isKeyChar c = true) (hascii : c.toNat < 0x80)
    (hminus : c ≠ '-') : c.isAlphanum = true ∨ c = '_' ∨ c = '$' := by
  simp only [isKeyChar, isAlphanumeric, if_pos hascii, Bool.or_eq_true, beq_iff_eq] at h
  rcases h with ((halphanum | hc) | hc) | hc
  · exact .inl halphanum
  · exact .inr (.inl hc)
  · exact .inr (.inr hc)
  · exact absurd hc hminus

theorem continuesPath_of_isKeyChar {c : Char} (h : isKeyChar c = true) (hascii : c.toNat < 0x80)
    (hminus : c ≠ '-') : continuesPath c = true := by
  rcases cases_of_isKeyChar h hascii hminus with halphanum | rfl | rfl
  · simp [continuesPath, halphanum]
  · decide
  · decide

theorem startsPath_of_isKeyChar {c : Char} (h : isKeyChar c = true) (hascii : c.toNat < 0x80)
    (hminus : c ≠ '-') (hdigit : c.isDigit = false) : startsPath c = true := by
  rcases cases_of_isKeyChar h hascii hminus with halphanum | rfl | rfl
  · rw [Char.isAlphanum, hdigit, Bool.or_false] at halphanum
    simp [startsPath, halphanum]
  · decide
  · decide

/-- A text of path characters is one path. -/
theorem scan_of_continuesPath {c : Char} {s : List Char} (hc : startsPath c = true)
    (hs : ∀ d ∈ s, continuesPath d = true) :
    scan (c :: s) = .ok [⟨.path (String.ofList (c :: s)), 0, c :: s⟩,
      ⟨.finish, byteLength (c :: s), []⟩] := by
  have hlongest : Longest SpellsPath (c :: s) [] := .whole ⟨c, s, rfl, hc, hs⟩
  have hlaid : Laid 0 ((c :: s) ++ []) _ :=
    .token (t := ⟨.path (String.ofList (c :: s)), 0, c :: s⟩)
      (fun h => by cases h) ⟨hlongest, String.toList_ofList⟩ (.finish _)
  rw [List.append_nil] at hlaid
  rw [scan, hlaid.scanFrom_eq_ok, Nat.zero_add]

end Token

/-- A path alone is a term. -/
theorem parse_of_continuesPath {c : Char} {s : List Char} (hc : startsPath c = true)
    (hs : ∀ d ∈ s, continuesPath d = true) :
    Term.parse (c :: s) = .ok (.path (String.ofList (c :: s))) := by
  let front : List Token := [⟨.path (String.ofList (c :: s)), 0, c :: s⟩]
  let last : Token := ⟨.finish, byteLength (c :: s), []⟩
  have hfront : ∀ u ∈ front, u.kind ≠ .finish := List.forall_mem_singleton.2 nofun
  have hlast : last.kind = .finish := rfl
  have hder : Derives .sum (front.map Token.kind) (.path (String.ofList (c :: s))) 0 :=
    .product (.signed (.primary (.path _)))
  have hread := (Term.ofTokens_eq_ok_iff hlast hfront _).2 ⟨0, Nat.zero_le _, hder⟩
  rw [Term.parse, Token.scan_of_continuesPath hc hs]
  exact hread

/-! ### Bare paths -/

/-- No sign and no blank stands in the text, and no digit at its front. -/
structure Bare (p : List Char) : Prop where
  minus : '-' ∉ p
  plus : '+' ∉ p
  blank : ∀ c ∈ p, isBlank c = false
  digit : ∀ c, p.head? = some c → c.isDigit = false

section Bare

variable {p : List Char} {parts : List Part} {c : Char}

/-- A bare text that is read as a path is spelled as one. -/
theorem Bare.spelled (hp : Bare p) {steps : List Step} (h : parse? p = some steps) :
    ∃ parts, Spelled parts p := by
  obtain ⟨parts, hparts, -⟩ := parse?_eq_some_iff.1 h
  rw [trim_eq_self hp.blank] at hparts
  exact ⟨parts, hparts⟩

theorem Bare.mem (hp : Bare p) (h : Spelled parts p) (hc : c ∈ p) :
    (isKeyChar c = true ∧ c ≠ '-') ∨ c = '.' ∨ c = '[' ∨ c = ']' := by
  rcases h.mem hc with hkey | hmark | hblank
  · refine .inl ⟨hkey, ?_⟩
    rintro rfl
    exact hp.minus hc
  · simp only [marks, List.mem_cons, List.not_mem_nil, or_false] at hmark
    rcases hmark with rfl | rfl | rfl | rfl
    · exact .inr (.inl rfl)
    · exact .inr (.inr (.inl rfl))
    · exact .inr (.inr (.inr rfl))
    · exact absurd hc hp.plus
  · rw [hp.blank c hc] at hblank
    cases hblank

theorem Bare.not_mem_closing (hp : Bare p) (h : Spelled parts p) : ')' ∉ p := by
  intro hc
  rcases hp.mem h hc with ⟨hkey, -⟩ | hc | hc | hc
  · exact ne_of_isKeyChar hkey (by decide +kernel) rfl
  all_goals
    revert hc
    decide

theorem Bare.continuesPath (hp : Bare p) (h : Spelled parts p) (hc : c ∈ p)
    (hascii : c.toNat < 0x80) : continuesPath c = true := by
  rcases hp.mem h hc with ⟨hkey, hminus⟩ | rfl | rfl | rfl
  · exact Token.continuesPath_of_isKeyChar hkey hascii hminus
  all_goals decide

/-- A bare path in ASCII is one path of a calculation. -/
theorem Bare.parse_eq (hp : Bare p) (h : Spelled parts p) (hascii : ∀ c ∈ p, c.toNat < 0x80) :
    Term.parse p = .ok (.path (String.ofList p)) := by
  obtain ⟨c, s, rfl, hkey⟩ := h.exists_eq_cons
  have hminus : c ≠ '-' := by
    rintro rfl
    exact hp.minus (.head s)
  have hstart : startsPath c = true :=
    Token.startsPath_of_isKeyChar hkey (hascii c (.head s)) hminus (hp.digit c rfl)
  exact parse_of_continuesPath hstart fun d hd =>
    hp.continuesPath h (.tail c hd) (hascii d (.tail c hd))

/-- A bare path in ASCII is worth the number that it leads to. -/
theorem Bare.value_eq (hp : Bare p) (h : Spelled parts p) (hascii : ∀ c ∈ p, c.toNat < 0x80)
    {scope : Scope} {x : Float} (hlookup : scope.lookup p = .number x) : value scope p = x := by
  have hterm : Term.eval scope (.path (String.ofList p)) = .ok x := by
    rw [Term.eval, operandValue, String.toList_ofList, hlookup]
  have hrun : run scope p = .ok x := by
    rw [run, hp.parse_eq h hascii]
    exact hterm
  rw [value, hrun]

/-- A text that is not in ASCII is worth 0. -/
theorem value_of_not_ascii (hc : c ∈ p) (hfar : 0x80 ≤ c.toNat) (scope : Scope) :
    value scope p = 0 := by
  have hstray : Token.accepts c = false := by
    rw [Bool.eq_false_iff]
    intro haccepts
    have hnear := Token.toNat_lt_of_accepts haccepts
    omega
  exact value_of_not_accepts hc hstray scope

end Bare

/-! ### The expression -/

theorem closesEarly_of_not_mem {s : List Char} (h : ')' ∉ s) (depth : Nat) :
    Expression.closesEarly depth s = false := by
  induction s generalizing depth with
  | nil => rfl
  | cons c s ih =>
      rw [List.mem_cons, not_or] at h
      rw [Expression.closesEarly.eq_def]
      simp only
      split
      · exact ih h.2 _
      · rw [if_neg fun hc => h.1 hc.symm]
        exact ih h.2 depth

theorem calculation?_append {body : List Char} (h : ')' ∉ body) :
    Expression.calculation? (Expression.calcOpening ++ (body ++ [')'])) = some body := by
  have hopening : Expression.calcOpening.isPrefixOf
      (Expression.calcOpening ++ (body ++ [')'])) = true :=
    List.isPrefixOf_iff_prefix.2 (List.prefix_append _ _)
  rw [Expression.calculation?, if_pos hopening]
  simp [closesEarly_of_not_mem h]

/-- **A path alone in a calculation.**  Where a bare path leads to a number, a calculation of that
path alone is the same number if the path is in ASCII; otherwise it fails and is 0. -/
theorem eval_calc_bare {scope : Scope} {p : List Char} {x : Float} (hp : Bare p)
    (hlookup : scope.lookup p = .number x) :
    ((∀ c ∈ p, c.toNat < 0x80) →
        Expression.eval scope (Expression.calcOpening ++ (p ++ [')'])) = .number x) ∧
      ((∃ c ∈ p, 0x80 ≤ c.toNat) →
        Expression.eval scope (Expression.calcOpening ++ (p ++ [')'])) = .number 0) := by
  have hread : ∃ steps, parse? p = some steps := by
    cases h : parse? p with
    | some steps => exact ⟨steps, rfl⟩
    | none =>
        rw [Scope.lookup, h] at hlookup
        cases hlookup
  obtain ⟨steps, hsteps⟩ := hread
  obtain ⟨parts, hparts⟩ := hp.spelled hsteps
  have hblank : ∀ c ∈ Expression.calcOpening ++ (p ++ [')']), isBlank c = false := by
    have hopening := forall_isBlank_of_any (s := Expression.calcOpening) rfl
    have hclosing := forall_isBlank_of_any (s := [')']) rfl
    exact List.forall_mem_append.2 ⟨hopening, List.forall_mem_append.2 ⟨hp.blank, hclosing⟩⟩
  have hbody :
      Expression.calculation? (trim (Expression.calcOpening ++ (p ++ [')']))) = some p := by
    rw [trim_eq_self hblank]
    exact calculation?_append (hp.not_mem_closing hparts)
  constructor
  · intro hascii
    rw [Expression.eval_of_calculation hbody, hp.value_eq hparts hascii hlookup]
  · rintro ⟨c, hc, hfar⟩
    rw [Expression.eval_of_calculation hbody, value_of_not_ascii hc hfar]

/-- A scope of a record in a list, and a number under an accented name. -/
def accentedScope : Scope :=
  .ofValue (.record [("a", .list [.record [("b", .number 5)]]), ("é", .number 5)])

theorem bare_accented : Bare ['é'] :=
  ⟨by decide, by decide, forall_isBlank_of_any rfl, by simp⟩

/-- Both paths lead to 5, and only that in ASCII is 5 as a calculation. -/
theorem eval_calc_bare_accentedScope :
    Bare ['a', '[', '0', ']', '.', 'b'] ∧ Bare ['é'] ∧
      accentedScope.lookup ['a', '[', '0', ']', '.', 'b'] = .number 5 ∧
      accentedScope.lookup ['é'] = .number 5 ∧
      Expression.eval accentedScope
        (Expression.calcOpening ++ (['a', '[', '0', ']', '.', 'b'] ++ [')'])) = .number 5 ∧
      Expression.eval accentedScope (Expression.calcOpening ++ (['é'] ++ [')'])) = .number 0 := by
  have hindexed : Bare ['a', '[', '0', ']', '.', 'b'] :=
    ⟨by decide, by decide, forall_isBlank_of_any rfl, by simp⟩
  have hnear : accentedScope.lookup ['a', '[', '0', ']', '.', 'b'] = .number 5 := by
    with_unfolding_all rfl
  have hfar : accentedScope.lookup ['é'] = .number 5 := by with_unfolding_all rfl
  refine ⟨hindexed, bare_accented, hnear, hfar, ?_, ?_⟩
  · exact (eval_calc_bare hindexed hnear).1 (by simp)
  · exact (eval_calc_bare bare_accented hfar).2 ⟨'é', .head [], by decide⟩

/-- A calculation of a path alone may be another number than the path leads to. -/
theorem not_eval_calc_accented :
    Bare ['é'] ∧ accentedScope.lookup ['é'] = .number 5 ∧ (5 : Float).isFinite = true ∧
      Expression.eval accentedScope (Expression.calcOpening ++ (['é'] ++ [')'])) ≠ .number 5 := by
  have hstray : value accentedScope ['é'] = 0 := value_of_not_ascii (.head []) (by decide) _
  have hbody : Expression.calculation?
      (trim (Expression.calcOpening ++ (['é'] ++ [')']))) = some ['é'] := by decide
  refine ⟨bare_accented, by with_unfolding_all rfl, by decide, ?_⟩
  rw [Expression.eval_of_calculation hbody, hstray]
  intro h
  have hsame : (0 : Float) = 5 := Value.number.inj h
  exact absurd hsame (by decide)

end ViewTree.Calc
