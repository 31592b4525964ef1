import ViewTree.Proofs.Text.Cuts
import ViewTree.Template

/-!
# Template — a text and its pieces

A text is either free of expressions or starts, behind a part that is clear of the opening, with an
expression that is clear of the closing; `parse_induction` follows a text that way.  Reading is
the inverse of writing the pieces one after the other: every text is the written form of its pieces,
and the pieces of a text are the `Canonical` lists of pieces and no others.

* `parse_of_not_encloses`, `parse_append_expression`: the two shapes of a text.
* `written_parse`, `canonical_parse`, `parse_written`: the two directions.
* `hasExpressions_iff`: there are expressions in a text when an opening is followed by a closing.
* `fill_of_isPlain`: a value without expressions is filled with itself.
* `parse_faithful`: all of it.
-/

namespace ViewTree

open Text

namespace Template

variable {s before e rest : List Char} {pieces : List Piece}

/-! ### Written pieces -/

/-- A piece as it stands in a text. -/
def Piece.written : Piece → List Char
  | .literal text => text
  | .expression text => opening ++ (text ++ closing)

/-- The text that is made of some pieces. -/
def written (pieces : List Piece) : List Char :=
  pieces.flatMap Piece.written

theorem written_cons (piece : Piece) (pieces : List Piece) :
    written (piece :: pieces) = piece.written ++ written pieces := rfl

theorem written_append (ps qs : List Piece) : written (ps ++ qs) = written ps ++ written qs :=
  List.flatMap_append

theorem written_literals (s : List Char) : written (literals s) = s := by
  cases s <;> simp [literals, written, Piece.written]

/-! ### The two shapes of a text -/

/-- An opening is followed by a closing. -/
def Encloses (s : List Char) : Prop :=
  ∃ inside, opening ++ (inside ++ closing) <:+: s

theorem opening_ne_nil : opening ≠ [] := List.cons_ne_nil _ _

theorem closing_ne_nil : closing ≠ [] := List.cons_ne_nil _ _

/-- The first opening decides: if no closing follows it, none follows a later one. -/
theorem encloses_iff :
    Encloses s ↔ ∃ before after, cut opening s = some (before, after) ∧ closing <:+: after := by
  constructor
  · rintro ⟨inside, front, back, hs⟩
    have happend : front ++ (opening ++ (inside ++ (closing ++ back))) = s := by simp [← hs]
    cases hcut : cut opening s with
    | none =>
        refine absurd ?_ ((cut_eq_none_iff opening_ne_nil).1 hcut)
        exact ⟨front, inside ++ (closing ++ back), by simp [← happend]⟩
    | some found =>
        obtain ⟨before, after⟩ := found
        have hsuffix : inside ++ (closing ++ back) <:+ after :=
          suffix_of_cut opening_ne_nil (happend ▸ hcut)
        have hinfix : closing <:+: inside ++ (closing ++ back) := ⟨inside, back, by simp⟩
        exact ⟨before, after, rfl, hinfix.trans hsuffix.isInfix⟩
  · rintro ⟨before, after, hcut, front, back, rfl⟩
    refine ⟨front, before, back, ?_⟩
    simpa using append_of_cut hcut

theorem parse_of_not_encloses (h : ¬ Encloses s) : parse s = literals s := by
  rw [parse]
  split
  · rfl
  · next before after hopen =>
      split
      · rfl
      · next e rest hclose =>
          refine absurd (encloses_iff.2 ⟨before, after, hopen, ?_⟩) h
          exact ⟨e, rest, append_of_cut hclose⟩

theorem parse_of_cut {after : List Char} (hopen : cut opening s = some (before, after))
    (hclose : cut closing after = some (e, rest)) :
    parse s = literals before ++ .expression e :: parse rest := by
  rw [parse]
  split
  · next hnone => cases hopen.symm.trans hnone
  · next hsome =>
      cases hopen.symm.trans hsome
      split
      · next hnone => cases hclose.symm.trans hnone
      · next hsome =>
          cases hclose.symm.trans hsome
          rfl

/-- A text that starts with an expression, behind a literal or not. -/
theorem parse_append_expression (hbefore : Clear '\x7b' before) (he : Clear '\x7d' e)
    (rest : List Char) :
    parse (before ++ ((Piece.expression e).written ++ rest)) =
      literals before ++ .expression e :: parse rest := by
  have hopen : cut opening (before ++ ((Piece.expression e).written ++ rest)) =
      some (before, e ++ (closing ++ rest)) :=
    cut_pair_eq_some_iff.2 ⟨by simp [Piece.written, opening], hbefore⟩
  have hclose : cut closing (e ++ (closing ++ rest)) = some (e, rest) :=
    cut_pair_eq_some_iff.2 ⟨by simp [closing], he⟩
  exact parse_of_cut hopen hclose

/-- Every text has one of the two shapes, and so has what follows its first expression. -/
@[elab_as_elim]
theorem parse_induction {motive : List Char → Prop}
    (plain : ∀ s, ¬ Encloses s → motive s)
    (expression : ∀ before e rest, Clear '\x7b' before → Clear '\x7d' e → motive rest →
      motive (before ++ ((Piece.expression e).written ++ rest)))
    (s : List Char) : motive s := by
  fun_induction parse s with
  | case1 s hopen =>
      refine plain s fun h => ?_
      obtain ⟨before, after, hcut, -⟩ := encloses_iff.1 h
      cases hopen.symm.trans hcut
  | case2 s before after hopen hclose =>
      refine plain s fun h => ?_
      obtain ⟨_, _, hcut, hinfix⟩ := encloses_iff.1 h
      cases hopen.symm.trans hcut
      exact (cut_eq_none_iff closing_ne_nil).1 hclose hinfix
  | case3 s before after hopen e rest hclose _ ih =>
      obtain ⟨rfl, hbefore⟩ := cut_pair_eq_some_iff.1 hopen
      obtain ⟨rfl, he⟩ := cut_pair_eq_some_iff.1 hclose
      have h := expression before e rest hbefore he ih
      simpa [Piece.written, opening, closing] using h

theorem not_encloses_nil : ¬ Encloses [] := by
  rintro ⟨inside, h⟩
  simp [opening] at h

/-! ### Canonical lists of pieces -/

/-- Pieces in the form in which they are read. -/
structure Canonical (pieces : List Piece) : Prop where
  filled : ∀ text, .literal text ∈ pieces → text ≠ []
  /-- No two literals are neighbours. -/
  apart : ∀ text next, ¬ [.literal text, .literal next] <:+: pieces
  /-- A literal before an expression holds no opening and does not end in half of one. -/
  before : ∀ text e, [.literal text, .expression e] <:+: pieces → Clear '\x7b' text
  /-- In a literal at the end no opening is followed by a closing. -/
  final : ∀ text, [.literal text] <:+ pieces → ¬ Encloses text
  /-- An expression holds no closing and does not end in half of one. -/
  inside : ∀ e, .expression e ∈ pieces → Clear '\x7d' e

theorem canonical_nil : Canonical [] :=
  ⟨by simp, by simp, by simp, by simp, by simp⟩

theorem canonical_literal_iff {text : List Char} :
    Canonical [.literal text] ↔ text ≠ [] ∧ ¬ Encloses text := by
  constructor
  · intro h
    exact ⟨h.filled text (.head _), h.final text List.suffix_rfl⟩
  · rintro ⟨hne, hfinal⟩
    refine ⟨?_, ?_, ?_, ?_, ?_⟩
    · simp [hne]
    · simp [List.infix_cons_iff]
    · simp [List.infix_cons_iff]
    · simp [List.suffix_cons_iff, hfinal]
    · simp

theorem Canonical.tail {piece : Piece} (h : Canonical (piece :: pieces)) : Canonical pieces := by
  refine ⟨?_, ?_, ?_, ?_, ?_⟩
  · intro text ht
    exact h.filled text (.tail _ ht)
  · intro text next ht
    exact h.apart text next (List.infix_cons ht)
  · intro text e ht
    exact h.before text e (List.infix_cons ht)
  · intro text ht
    exact h.final text (ht.trans (List.suffix_cons piece pieces))
  · intro e he
    exact h.inside e (.tail _ he)

theorem canonical_expression_cons_iff :
    Canonical (.expression e :: pieces) ↔ Clear '\x7d' e ∧ Canonical pieces := by
  constructor
  · intro h
    exact ⟨h.inside e (.head _), h.tail⟩
  · rintro ⟨he, h⟩
    refine ⟨?_, ?_, ?_, ?_, ?_⟩
    · simpa using h.filled
    · simpa [List.infix_cons_iff] using h.apart
    · simpa [List.infix_cons_iff] using h.before
    · simpa [List.suffix_cons_iff] using h.final
    · simpa [he] using h.inside

theorem canonical_literal_cons_iff {text : List Char} :
    Canonical (.literal text :: .expression e :: pieces) ↔
      text ≠ [] ∧ Clear '\x7b' text ∧ Canonical (.expression e :: pieces) := by
  constructor
  · intro h
    exact ⟨h.filled text (.head _), h.before text e ⟨[], pieces, rfl⟩, h.tail⟩
  · rintro ⟨hne, hclear, h⟩
    refine ⟨?_, ?_, ?_, ?_, ?_⟩
    · simpa [hne] using h.filled
    · simpa [List.infix_cons_iff] using h.apart
    · intro text e hinfix
      rcases List.infix_cons_iff.1 hinfix with hhere | hlater
      · simp at hhere
        rw [hhere.1]
        exact hclear
      · exact h.before text e hlater
    · simpa [List.suffix_cons_iff] using h.final
    · simpa using h.inside

/-! ### Reading and writing -/

/-- The written form of the pieces of a text is the text. -/
theorem written_parse (s : List Char) : written (parse s) = s := by
  induction s using parse_induction with
  | plain s h => rw [parse_of_not_encloses h, written_literals]
  | expression before e rest hbefore he ih =>
      rw [parse_append_expression hbefore he, written_append, written_literals, written_cons, ih]

/-- The pieces of a text are canonical. -/
theorem canonical_parse (s : List Char) : Canonical (parse s) := by
  induction s using parse_induction with
  | plain s h =>
      rw [parse_of_not_encloses h]
      cases s with
      | nil => exact canonical_nil
      | cons c s => exact canonical_literal_iff.2 ⟨List.cons_ne_nil c s, h⟩
  | expression before e rest hbefore he ih =>
      have hrest := canonical_expression_cons_iff.2 ⟨he, ih⟩
      rw [parse_append_expression hbefore he]
      cases before with
      | nil => exact hrest
      | cons c s => exact canonical_literal_cons_iff.2 ⟨List.cons_ne_nil c s, hbefore, hrest⟩

theorem literals_of_ne_nil (h : s ≠ []) : literals s = [.literal s] := by
  simp [literals, h]

/-- Canonical pieces are the pieces of their written form. -/
theorem parse_written : ∀ {pieces : List Piece}, Canonical pieces → parse (written pieces) = pieces
  | [], _ => parse_of_not_encloses not_encloses_nil
  | [.literal text], h => by
      obtain ⟨hne, hfinal⟩ := canonical_literal_iff.1 h
      have hwritten : written [.literal text] = text := by simp [written, Piece.written]
      rw [hwritten, parse_of_not_encloses hfinal, literals_of_ne_nil hne]
  | .expression e :: pieces, h => by
      obtain ⟨he, hpieces⟩ := canonical_expression_cons_iff.1 h
      have hread := parse_append_expression (clear_nil _) he (written pieces)
      rw [parse_written hpieces] at hread
      exact hread
  | .literal text :: .expression e :: pieces, h => by
      obtain ⟨hne, hclear, hrest⟩ := canonical_literal_cons_iff.1 h
      obtain ⟨he, hpieces⟩ := canonical_expression_cons_iff.1 hrest
      have hread := parse_append_expression hclear he (written pieces)
      rw [parse_written hpieces, literals_of_ne_nil hne] at hread
      exact hread
  | .literal text :: .literal next :: pieces, h => absurd ⟨[], pieces, rfl⟩ (h.apart text next)

/-! ### Texts and values without expressions -/

/-- There are expressions in a text exactly when an opening is followed by a closing. -/
theorem hasExpressions_iff : hasExpressions s = true ↔ Encloses s := by
  induction s using parse_induction with
  | plain s h =>
      refine iff_of_false ?_ h
      cases s <;> simp [hasExpressions, parse_of_not_encloses h, literals, Piece.isExpression]
  | expression before e rest hbefore he _ =>
      refine iff_of_true ?_ ⟨e, before, rest, by simp [Piece.written]⟩
      simp [hasExpressions, parse_append_expression hbefore he, Piece.isExpression]

theorem fillText_of_not_hasExpressions (scope : Scope) {s : String}
    (h : hasExpressions s.toList = false) : fillText scope s = .text s := by
  rw [hasExpressions] at h
  rw [fillText]
  split
  · next e hparse =>
      rw [hparse] at h
      cases h
  · rw [h]
    rfl

end Template

/-- No text in a value has expressions. -/
inductive Value.IsPlain : Value → Prop where
  | undefined : IsPlain .undefined
  | null : IsPlain .null
  | bool (b : Bool) : IsPlain (.bool b)
  | number (x : Float) : IsPlain (.number x)
  | text {s : String} (h : Template.hasExpressions s.toList = false) : IsPlain (.text s)
  | list {items : List Value} (h : ∀ v ∈ items, IsPlain v) : IsPlain (.list items)
  | record {fields : List (String × Value)} (h : ∀ f ∈ fields, IsPlain f.2) :
      IsPlain (.record fields)

namespace Template

theorem fillItems_eq_self {scope : Scope} {items : List Value}
    (h : ∀ v ∈ items, fill scope v = v) : fillItems scope items = items := by
  induction items with
  | nil => rfl
  | cons v vs ih =>
      obtain ⟨hv, hvs⟩ := List.forall_mem_cons.1 h
      rw [fillItems, hv, ih hvs]

theorem fillFields_eq_self {scope : Scope} {fields : List (String × Value)}
    (h : ∀ f ∈ fields, fill scope f.2 = f.2) : fillFields scope fields = fields := by
  induction fields with
  | nil => rfl
  | cons f fs ih =>
      obtain ⟨hf, hfs⟩ := List.forall_mem_cons.1 h
      rw [fillFields, hf, ih hfs]

/-- A value without expressions is filled with itself. -/
theorem fill_of_isPlain {v : Value} (h : v.IsPlain) (scope : Scope) : fill scope v = v := by
  induction h with
  | undefined | null | bool _ | number _ => rfl
  | text h => exact fillText_of_not_hasExpressions scope h
  | list _ ih => exact congrArg Value.list (fillItems_eq_self ih)
  | record _ ih => exact congrArg Value.record (fillFields_eq_self ih)

/-- **Templates are read without loss and in one way.**  A text is the written form of its pieces,
which are canonical; canonical pieces are the pieces of their written form; and a value whose texts
have no expressions is filled with itself. -/
theorem parse_faithful :
    (∀ s, written (parse s) = s ∧ Canonical (parse s) ∧ (hasExpressions s = true ↔ Encloses s)) ∧
      (∀ pieces, Canonical pieces → parse (written pieces) = pieces) ∧
      ∀ (v : Value) (scope : Scope), v.IsPlain → fill scope v = v := by
  refine ⟨?_, ?_, ?_⟩
  · intro s
    exact ⟨written_parse s, canonical_parse s, hasExpressions_iff⟩
  · intro pieces h
    exact parse_written h
  · intro v scope h
    exact fill_of_isPlain h scope

/-- Single braces next to the marks, an expression without text, and an opening that is not
closed. -/
def bracedPieces : List Piece :=
  [.literal ['\x7b', ' '], .expression ['\x7b', 'x'], .expression [],
    .literal ['\x7d', '\x7b', '\x7b']]

/-- A record of texts in which the marks stand in no order that counts. -/
def bracedRecord : Value :=
  .record [("items", .list [.text "\x7d\x7d \x7b\x7b", .null]), ("title", .text "\x7b\x7d")]

theorem parse_faithful_braced :
    Canonical bracedPieces ∧ parse (written bracedPieces) = bracedPieces ∧
      bracedRecord.IsPlain ∧ fill .empty bracedRecord = bracedRecord := by
  have hpieces : Canonical bracedPieces := by
    have hopen : ¬ Encloses ['\x7d', '\x7b', '\x7b'] := by
      rw [← hasExpressions_iff]
      decide +kernel
    simp only [bracedPieces, canonical_literal_cons_iff, canonical_expression_cons_iff,
      canonical_literal_iff]
    exact ⟨nofun, ⟨by decide, by decide⟩, ⟨by decide, by decide⟩, clear_nil _, nofun, hopen⟩
  have hrecord : bracedRecord.IsPlain := by
    refine .record (List.forall_mem_cons.2 ⟨.list ?_, List.forall_mem_singleton.2 ?_⟩)
    · exact List.forall_mem_cons.2
        ⟨.text (by decide +kernel), List.forall_mem_singleton.2 .null⟩
    · exact .text (by decide +kernel)
  obtain ⟨-, hread, hfill⟩ := parse_faithful
  exact ⟨hpieces, hread bracedPieces hpieces, hrecord, hfill bracedRecord .empty hrecord⟩

end Template

end ViewTree
