import ViewTree.Json.Reader
import ViewTree.Json.Writer
import ViewTree.Proofs.Text.Numerals

/-!
# Json — compact text reads back

What the writer writes the reader reads, whatever follows, for documents whose numbers are integers
that fit into a word.  Texts may hold any characters.

* `readChars_writeChar`: the characters of a text survive their escapes.
* `readNumber_signedDigits`: an integer that fits into a word is read from its digits.
* `read_write`: a document is read from its compact text.
* `parse?_render`: a document is the one in its compact text.
-/

namespace ViewTree.Json

open ViewTree.Text ViewTree.Number

/-- A reader takes a value off the front of a text and leaves the rest. -/
def Takes {α : Type} (reader : (s : List Char) → Option (Parsed α s)) (s : List Char) (value : α)
    (rest : List Char) : Prop :=
  ∃ shorter, reader s = some ⟨value, rest, shorter⟩

/-! ### Texts -/

theorem hexValue?_hexDigit (n : Nat) : hexValue? (hexDigit n) = some (n % 16) := by
  have hall : ∀ k < 16, hexValue? (Nat.digitChar k) = some k := by decide
  exact hall (n % 16) (Nat.mod_lt n (by decide))

/-- An escaped control character is read from its two digits. -/
theorem readCodePoint_hexDigit {c : Char} (hc : c.toNat < 0x20) (rest : List Char) :
    Takes readCodePoint ('0' :: '0' :: hexDigit (c.toNat / 16) :: hexDigit c.toNat :: rest) c
      rest := by
  have hzero : hexValue? '0' = some 0 := by decide
  have hvalue : (((0 * 16 + 0) * 16 + c.toNat / 16 % 16) * 16 + c.toNat % 16) = c.toNat := by omega
  have hunit : Takes readUnit ('0' :: '0' :: hexDigit (c.toNat / 16) :: hexDigit c.toNat :: rest)
      c.toNat rest := by
    refine ⟨by simp only [List.length_cons]; omega, ?_⟩
    simp only [readUnit, hzero, hexValue?_hexDigit, bind, Option.bind, hvalue]
    rfl
  obtain ⟨shorter, hunit⟩ := hunit
  have hsingle : c.toNat < 0xD800 ∨ 0xE000 ≤ c.toNat := .inl (Nat.lt_trans hc (by decide))
  refine ⟨shorter, ?_⟩
  rw [readCodePoint, hunit]
  simp only [bind, Option.bind, hsingle, if_true]
  rw [Parsed.map, Char.ofNat_toNat]
  rfl

/-- A character is written with a letter after a backslash, as a control character, or as itself. -/
theorem writeChar_cases (c : Char) :
    (∃ letter, writeChar c = ['\\', letter] ∧ letter ≠ 'u' ∧ escaped? letter = some c) ∨
    (c.toNat < 0x20 ∧
      writeChar c = ['\\', 'u', '0', '0', hexDigit (c.toNat / 16), hexDigit c.toNat]) ∨
    (writeChar c = [c] ∧ c ≠ '"' ∧ c ≠ '\\' ∧ ¬ c.toNat < 0x20) := by
  have hletter : ∀ letter, letter ≠ 'u' → escaped? letter = some c →
      writeChar c = ['\\', letter] →
        ∃ letter, writeChar c = ['\\', letter] ∧ letter ≠ 'u' ∧ escaped? letter = some c :=
    fun letter hu he hw => ⟨letter, hw, hu, he⟩
  by_cases hquote : c = '"'
  · subst hquote; exact .inl (hletter '"' (by decide) rfl rfl)
  by_cases hslash : c = '\\'
  · subst hslash; exact .inl (hletter '\\' (by decide) rfl rfl)
  by_cases hline : c = '\n'
  · subst hline; exact .inl (hletter 'n' (by decide) rfl rfl)
  by_cases hreturn : c = '\r'
  · subst hreturn; exact .inl (hletter 'r' (by decide) rfl rfl)
  by_cases htab : c = '\t'
  · subst htab; exact .inl (hletter 't' (by decide) rfl rfl)
  by_cases hback : c = '\x08'
  · subst hback; exact .inl (hletter 'b' (by decide) rfl rfl)
  by_cases hfeed : c = '\x0c'
  · subst hfeed; exact .inl (hletter 'f' (by decide) rfl rfl)
  rw [writeChar, if_neg hquote, if_neg hslash, if_neg hline, if_neg hreturn, if_neg htab,
    if_neg hback, if_neg hfeed]
  by_cases hcontrol : c.toNat < 0x20
  · rw [if_pos hcontrol]
    exact .inr (.inl ⟨hcontrol, rfl⟩)
  · rw [if_neg hcontrol]
    exact .inr (.inr ⟨rfl, hquote, hslash, hcontrol⟩)

theorem readChar_backslash (letter : Char) (s : List Char) :
    readChar ('\\' :: letter :: s) =
      if letter = 'u' then (readCodePoint s).map fun p => p.after.after
      else (escaped? letter).map fun d => (Parsed.one d).after := rfl

theorem readChar_plain {c : Char} (hslash : c ≠ '\\') (hcontrol : ¬ c.toNat < 0x20)
    (s : List Char) : readChar (c :: s) = some (.one c) := by
  rw [readChar]
  · exact if_neg (not_or.2 ⟨hslash, hcontrol⟩)
  · exact fun _ _ h _ => absurd h hslash

/-- A character is read back from how it is written. -/
theorem readChar_writeChar (c : Char) (rest : List Char) :
    Takes readChar (writeChar c ++ rest) c rest := by
  obtain ⟨letter, hw, hu, he⟩ | ⟨hcontrol, hw⟩ | ⟨hw, -, hslash, hcontrol⟩ := writeChar_cases c
  · rw [hw]
    refine ⟨Nat.lt_succ_of_lt (Nat.lt_succ_self _), ?_⟩
    refine (readChar_backslash letter rest).trans ?_
    rw [if_neg hu, he]
    rfl
  · rw [hw]
    obtain ⟨shorter, hread⟩ := readCodePoint_hexDigit hcontrol rest
    refine ⟨Nat.lt_succ_of_lt (Nat.lt_succ_of_lt shorter), ?_⟩
    refine (readChar_backslash 'u' _).trans ?_
    rw [if_pos rfl]
    exact congrArg (Option.map fun p => p.after.after) hread
  · rw [hw]
    exact ⟨Nat.lt_succ_self _, readChar_plain hslash hcontrol rest⟩

/-- No written character looks like the closing quote. -/
theorem writeChar_ne_quote (c : Char) (rest s : List Char) : writeChar c ++ rest ≠ '"' :: s := by
  intro h
  obtain ⟨letter, hw, -, -⟩ | ⟨-, hw⟩ | ⟨hw, hquote, -, -⟩ := writeChar_cases c
  · rw [hw] at h; cases h
  · rw [hw] at h; cases h
  · rw [hw] at h; cases h; exact hquote rfl

theorem readChars_of_ne_quote {s : List Char} (h : ∀ r, s ≠ '"' :: r) :
    readChars s = do
      let c ← readChar s
      let cs ← readChars c.rest
      return ⟨c.value :: cs.value, cs.rest, Nat.lt_trans cs.shorter c.shorter⟩ := by
  rw [readChars.eq_def]
  split
  · exact absurd rfl (h _)
  · rfl

/-- The characters of a text are read back up to its closing quote. -/
theorem readChars_writeChar (cs rest : List Char) :
    Takes readChars (cs.flatMap writeChar ++ '"' :: rest) cs rest := by
  induction cs with
  | nil => exact ⟨Nat.lt_succ_self _, by rw [readChars.eq_def]; rfl⟩
  | cons c cs ih =>
      rw [List.flatMap_cons, List.append_assoc]
      obtain ⟨hchar, hc⟩ := readChar_writeChar c (cs.flatMap writeChar ++ '"' :: rest)
      obtain ⟨hchars, hcs⟩ := ih
      refine ⟨Nat.lt_trans hchars hchar, ?_⟩
      rw [readChars_of_ne_quote (writeChar_ne_quote c _), hc]
      simp only [bind, Option.bind, hcs]
      rfl

theorem readText_writeText (text : String) (rest : List Char) :
    Takes readText (text.toList.flatMap writeChar ++ '"' :: rest) text rest := by
  obtain ⟨shorter, h⟩ := readChars_writeChar text.toList rest
  refine ⟨shorter, ?_⟩
  rw [readText, h, Option.map_some, Parsed.map, String.ofList_toList]

/-! ### Numbers -/

/-- A text that does not go on with a number. -/
def EndsNumber (rest : List Char) : Prop :=
  ∀ c r, rest = c :: r → c.isDigit = false ∧ c ≠ '.' ∧ c ≠ 'e' ∧ c ≠ 'E'

theorem readDigits_append {ds rest : List Char} (hne : ds ≠ [])
    (hdigits : ∀ c ∈ ds, c.isDigit = true) (hrest : EndsNumber rest) :
    Takes readDigits (ds ++ rest) ds rest := by
  have hnone : rest.takeWhile Char.isDigit = [] ∧ rest.dropWhile Char.isDigit = rest := by
    cases rest with
    | nil => exact ⟨rfl, rfl⟩
    | cons c r =>
        have hc : ¬ c.isDigit = true := Bool.eq_false_iff.1 (hrest c r rfl).1
        exact ⟨List.takeWhile_cons_of_neg hc, List.dropWhile_cons_of_neg hc⟩
  have htake : (ds ++ rest).takeWhile Char.isDigit = ds := by
    rw [List.takeWhile_append_of_pos hdigits, hnone.1, List.append_nil]
  have hdrop : (ds ++ rest).dropWhile Char.isDigit = rest := by
    rw [List.dropWhile_append_of_pos hdigits, hnone.2]
  have hshorter : rest.length < (ds ++ rest).length := by
    have hpos := List.length_pos_iff.2 hne
    rw [List.length_append]
    omega
  refine ⟨hshorter, ?_⟩
  rw [readDigits]
  split
  · next h => exact absurd (htake.symm.trans h) hne
  · next d ds' h =>
      have hall : d :: ds' = ds := h.symm.trans htake
      simp only [hall, hdrop]

theorem readWhole_digits (n : Nat) {rest : List Char} (hrest : EndsNumber rest) :
    Takes readWhole (digits n ++ rest) (digits n) rest := by
  obtain ⟨d, ds, hdigits, hlead⟩ := digits_leads n
  have hne : digits n ≠ [] := by rw [hdigits]; exact List.cons_ne_nil d ds
  have hwhole : (decide ((digits n).length = 1) || (digits n).head? != some '0') = true := by
    rw [hdigits]
    rcases hlead with rfl | hd
    · rfl
    · rw [Bool.or_eq_true_iff, bne_iff_ne]
      exact .inr fun h => hd (Option.some.inj h)
  obtain ⟨shorter, hread⟩ := readDigits_append hne (fun _ => isDigit_of_mem_digits) hrest
  refine ⟨shorter, ?_⟩
  rw [readWhole, hread]
  exact Option.filter_some_pos hwhole

/-- A number without a point and an exponent is the integer of its digits. -/
theorem readUnsigned_digits {negative : Bool} {n : Nat} {j : Json}
    (hj : integral? negative (digits n) = some j) {rest : List Char} (hrest : EndsNumber rest) :
    Takes (readUnsigned negative) (digits n ++ rest) j rest := by
  obtain ⟨shorter, hwhole⟩ := readWhole_digits n hrest
  refine ⟨shorter, ?_⟩
  have hfraction : readFraction (⟨digits n, rest, shorter⟩ : Parsed _ (digits n ++ rest)) =
      some ⟨(digits n, none), rest, shorter⟩ := by
    rw [readFraction]
    split
    · next r h => exact absurd rfl (hrest '.' r h).2.1
    · rfl
  rw [readUnsigned, hwhole]
  simp only [bind, Option.bind, hfraction]
  cases rest with
  | nil => simp only [hj]; rfl
  | cons c r =>
      have hmark : ¬ (c = 'e' ∨ c = 'E') := not_or.2 (hrest c r rfl).2.2
      simp only [if_neg hmark, hj]
      rfl

/-- An integer that fits into a word, with or without a sign. -/
def FitsWord (n : Int) : Prop :=
  -(signBit : Int) ≤ n ∧ n < wordBound

theorem integral?_digits {n : Int} (hn : FitsWord n) :
    integral? (decide (n < 0)) (digits n.natAbs) = some (.int n) := by
  obtain ⟨hlow, hhigh⟩ := hn
  rw [integral?, digitsValue_digits]
  by_cases hneg : n < 0
  · have hrange : 0 < n.natAbs ∧ n.natAbs ≤ signBit := by omega
    have hvalue : -(n.natAbs : Int) = n := by omega
    rw [decide_eq_true hneg]
    simp only [if_true, if_pos hrange, hvalue]
  · have hrange : n.natAbs < wordBound := by omega
    have hvalue : (n.natAbs : Int) = n := by omega
    rw [decide_eq_false hneg]
    simp only [if_pos hrange, hvalue]
    rfl

theorem readNumber_of_ne_minus {s : List Char} (h : ∀ r, s ≠ '-' :: r) :
    readNumber s = readUnsigned false s := by
  rw [readNumber.eq_def]
  split
  · exact absurd rfl (h _)
  · rfl

/-- An integer that fits into a word is read from its digits. -/
theorem readNumber_signedDigits {n : Int} (hn : FitsWord n) {rest : List Char}
    (hrest : EndsNumber rest) : Takes readNumber (signedDigits n ++ rest) (.int n) rest := by
  have hj := integral?_digits hn
  by_cases hneg : n < 0
  · rw [decide_eq_true hneg] at hj
    obtain ⟨shorter, hread⟩ := readUnsigned_digits hj hrest
    rw [signedDigits, if_pos hneg]
    exact ⟨Nat.lt_succ_of_lt shorter, congrArg (Option.map Parsed.after) hread⟩
  · rw [decide_eq_false hneg] at hj
    obtain ⟨shorter, hread⟩ := readUnsigned_digits hj hrest
    rw [signedDigits, if_neg hneg]
    refine ⟨shorter, (readNumber_of_ne_minus ?_).trans hread⟩
    intro r h
    obtain ⟨d, ds, hdigits, -⟩ := digits_leads n.natAbs
    have hd : d.isDigit = true := isDigit_of_mem_digits (hdigits ▸ List.mem_cons_self)
    rw [hdigits] at h
    cases h
    exact absurd hd (by decide)

/-! ### Documents -/

/-- A document with no white space before it. -/
theorem read_cons {c : Char} (hc : isSpace c = false) (levels : Nat) (r : List Char) :
    read levels (c :: r) =
      if c = '[' then match levels with
        | 0 => none
        | levels + 1 => (readArray (read levels) r).map Parsed.after
      else if c = '\x7b' then match levels with
        | 0 => none
        | levels + 1 => (readObject (read levels) r).map Parsed.after
      else if c = '"' then (readText r).map fun p => (p.map text).after
      else (readWord ['n', 'u', 'l', 'l'] null (c :: r)
        <|> readWord ['t', 'r', 'u', 'e'] (bool true) (c :: r)
        <|> readWord ['f', 'a', 'l', 's', 'e'] (bool false) (c :: r)
        <|> readNumber (c :: r)) := by
  have hskip : skipSpace (c :: r) = c :: r :=
    List.dropWhile_cons_of_neg (Bool.eq_false_iff.1 hc)
  rw [read.eq_def]
  simp only
  generalize length_skipSpace_le (c :: r) = shorter
  revert shorter
  rw [hskip]
  intro shorter
  exact congrFun Option.map_id _

theorem readWord_cons (c : Char) (word : List Char) (j : Json) (rest : List Char) :
    Takes (readWord (c :: word) j) (c :: (word ++ rest)) j rest := by
  refine ⟨?_, ?_⟩
  · rw [List.length_cons, List.length_append]
    omega
  · have hword : c :: word ≠ [] ∧ c :: word <+: c :: (word ++ rest) :=
      ⟨List.cons_ne_nil c word, rest, rfl⟩
    rw [readWord, dif_pos hword]
    simp only [List.length_cons, List.drop_succ_cons, List.drop_left]

/-- A word is not read where another character comes first. -/
theorem readWord_of_ne {c d : Char} (h : c ≠ d) (word r : List Char) (j : Json) :
    readWord (c :: word) j (d :: r) = none := by
  rw [readWord, dif_neg]
  rintro ⟨-, t, ht⟩
  cases ht
  exact h rfl

/-- A document that is neither an array nor an object nor a text. -/
theorem read_scalar {c : Char} (hc : isSpace c = false ∧ c ≠ '[' ∧ c ≠ '\x7b' ∧ c ≠ '"')
    (levels : Nat) (r : List Char) :
    read levels (c :: r) =
      (readWord ['n', 'u', 'l', 'l'] null (c :: r)
        <|> readWord ['t', 'r', 'u', 'e'] (bool true) (c :: r)
        <|> readWord ['f', 'a', 'l', 's', 'e'] (bool false) (c :: r)
        <|> readNumber (c :: r)) := by
  obtain ⟨hspace, harray, hobject, htext⟩ := hc
  rw [read_cons hspace, if_neg harray, if_neg hobject, if_neg htext]

theorem read_null (levels : Nat) (rest : List Char) :
    Takes (read levels) (writeNull ++ rest) null rest := by
  obtain ⟨shorter, h⟩ := readWord_cons 'n' ['u', 'l', 'l'] null rest
  rw [writeNull, List.cons_append]
  refine ⟨shorter, ?_⟩
  rw [read_scalar (by decide), h]
  rfl

theorem read_bool (levels : Nat) (b : Bool) (rest : List Char) :
    Takes (read levels) (writeBool b ++ rest) (bool b) rest := by
  cases b with
  | true =>
      obtain ⟨shorter, h⟩ := readWord_cons 't' ['r', 'u', 'e'] (bool true) rest
      rw [writeBool, List.cons_append]
      refine ⟨shorter, ?_⟩
      rw [read_scalar (by decide),
        readWord_of_ne (by decide), h]
      rfl
  | false =>
      obtain ⟨shorter, h⟩ := readWord_cons 'f' ['a', 'l', 's', 'e'] (bool false) rest
      rw [writeBool, List.cons_append]
      refine ⟨shorter, ?_⟩
      rw [read_scalar (by decide),
        readWord_of_ne (by decide), readWord_of_ne (by decide), h]
      rfl

/-- The first character of an integer is a minus or a digit. -/
theorem exists_signedDigits_eq_cons (n : Int) :
    ∃ c r, signedDigits n = c :: r ∧ ∀ d, d ≠ '-' → d.isDigit = false → c ≠ d := by
  rw [signedDigits]
  split
  · exact ⟨'-', _, rfl, fun d hminus _ h => hminus h.symm⟩
  · obtain ⟨c, ds, hdigits, -⟩ := digits_leads n.natAbs
    have hc : c.isDigit = true := isDigit_of_mem_digits (hdigits ▸ List.mem_cons_self)
    refine ⟨c, ds, hdigits, ?_⟩
    rintro d - hdigit rfl
    rw [hdigit] at hc
    cases hc

/-- No white space starts an integer. -/
theorem isSpace_of_ne {c : Char} (h : ∀ d, d ≠ '-' → d.isDigit = false → c ≠ d) :
    isSpace c = false := by
  simp only [isSpace, Bool.or_eq_false_iff, beq_eq_false_iff_ne]
  exact ⟨⟨⟨h _ (by decide) (by decide), h _ (by decide) (by decide)⟩,
    h _ (by decide) (by decide)⟩, h _ (by decide) (by decide)⟩

theorem read_int (levels : Nat) {n : Int} (hn : FitsWord n) {rest : List Char}
    (hrest : EndsNumber rest) : Takes (read levels) (signedDigits n ++ rest) (int n) rest := by
  obtain ⟨c, r, hcons, hc⟩ := exists_signedDigits_eq_cons n
  obtain ⟨shorter, h⟩ := readNumber_signedDigits hn hrest
  refine ⟨shorter, ?_⟩
  have hscalar : isSpace c = false ∧ c ≠ '[' ∧ c ≠ '\x7b' ∧ c ≠ '"' :=
    ⟨isSpace_of_ne hc, hc _ (by decide) (by decide), hc _ (by decide) (by decide),
      hc _ (by decide) (by decide)⟩
  rw [← h, hcons, List.cons_append, read_scalar hscalar,
    readWord_of_ne (hc _ (by decide) (by decide)).symm,
    readWord_of_ne (hc _ (by decide) (by decide)).symm,
    readWord_of_ne (hc _ (by decide) (by decide)).symm]
  rfl

theorem read_text (levels : Nat) (t : String) (rest : List Char) :
    Takes (read levels) (writeText t ++ rest) (text t) rest := by
  obtain ⟨shorter, h⟩ := readText_writeText t rest
  rw [writeText, List.cons_append, List.append_assoc]
  refine ⟨Nat.lt_succ_of_lt shorter, ?_⟩
  rw [read_cons (by decide), if_neg (by decide), if_neg (by decide), if_pos rfl]
  exact congrArg (Option.map fun p => (p.map text).after) h

/-! ### Arrays and objects -/

section Item

variable {item : (s : List Char) → Option (Parsed Json s)} {s r rest : List Char} {j : Json}

theorem readItems_last (h : Takes item s j (']' :: rest)) :
    Takes (readItems item) s [j] rest := by
  obtain ⟨shorter, h⟩ := h
  refine ⟨Nat.lt_of_succ_lt shorter, ?_⟩
  rw [readItems, h]
  rfl

theorem readItems_more {js : List Json} (h : Takes item s j (',' :: r))
    (hr : Takes (readItems item) r js rest) : Takes (readItems item) s (j :: js) rest := by
  obtain ⟨shorter, h⟩ := h
  obtain ⟨shorter', hr⟩ := hr
  refine ⟨Nat.lt_trans shorter' (Nat.lt_of_succ_lt shorter), ?_⟩
  rw [readItems, h]
  change Option.bind (readItems item r) _ = _
  rw [hr]
  rfl

theorem readEntry_write {name : String} (h : Takes item s j rest) :
    Takes (readEntry item) (writeText name ++ ':' :: s) (name, j) rest := by
  obtain ⟨shorter, h⟩ := h
  obtain ⟨shorter', hname⟩ := readText_writeText name (':' :: s)
  rw [writeText, List.cons_append, List.append_assoc]
  refine ⟨Nat.lt_trans shorter (Nat.lt_succ_of_lt (Nat.lt_of_succ_lt shorter')), ?_⟩
  change Option.bind (readText (name.toList.flatMap writeChar ++ '"' :: ':' :: s)) _ = _
  rw [hname]
  change Option.bind (item s) _ = _
  rw [h]
  rfl

theorem readEntries_last {e : String × Json} (h : Takes (readEntry item) s e ('\x7d' :: rest)) :
    Takes (readEntries item) s [e] rest := by
  obtain ⟨shorter, h⟩ := h
  refine ⟨Nat.lt_of_succ_lt shorter, ?_⟩
  rw [readEntries, h]
  rfl

theorem readEntries_more {e : String × Json} {es : List (String × Json)}
    (h : Takes (readEntry item) s e (',' :: r)) (hr : Takes (readEntries item) r es rest) :
    Takes (readEntries item) s (e :: es) rest := by
  obtain ⟨shorter, h⟩ := h
  obtain ⟨shorter', hr⟩ := hr
  refine ⟨Nat.lt_trans shorter' (Nat.lt_of_succ_lt shorter), ?_⟩
  rw [readEntries, h]
  change Option.bind (readEntries item r) _ = _
  rw [hr]
  rfl

end Item

/-- The documents whose numbers are integers that fit into a word, with at most so many arrays and
objects in each other. -/
inductive Readable : Nat → Json → Prop where
  | null {levels} : Readable levels null
  | bool {levels} (b : Bool) : Readable levels (bool b)
  | int {levels n} : FitsWord n → Readable levels (int n)
  | text {levels} (t : String) : Readable levels (text t)
  | array {levels items} : (∀ j ∈ items, Readable levels j) → Readable (levels + 1) (array items)
  | object {levels entries} : (∀ e ∈ entries, Readable levels e.2) →
      Readable (levels + 1) (object entries)

/-- A word that is not below 0 fits. -/
theorem Readable.word {levels : Nat} (w : UInt64) : Readable levels (.int w.toNat) :=
  .int ⟨Int.le_trans (by decide) (Int.natCast_nonneg _), Int.ofNat_lt.2 w.toNat_lt⟩

theorem Readable.texts {levels : Nat} (texts : List String) :
    Readable (levels + 1) (.array (texts.map .text)) := by
  refine .array fun j hj => ?_
  obtain ⟨t, -, rfl⟩ := List.mem_map.1 hj
  exact .text t

/-- A document is read from its text wherever no number goes on. -/
def ReadsBack (levels : Nat) (j : Json) : Prop :=
  ∀ rest, EndsNumber rest → Takes (read levels) (j.write ++ rest) j rest

theorem commaSeparated_singleton (t : List Char) : commaSeparated [t] = t :=
  List.intercalate_singleton

theorem commaSeparated_cons_cons (t u : List Char) (ts : List (List Char)) :
    commaSeparated (t :: u :: ts) = t ++ ',' :: commaSeparated (u :: ts) := by
  rw [commaSeparated, List.intercalate_cons_cons, List.append_assoc]
  rfl

theorem exists_commaSeparated_cons (t : List Char) (ts : List (List Char)) :
    ∃ more, commaSeparated (t :: ts) = t ++ more := by
  cases ts with
  | nil => exact ⟨[], by rw [commaSeparated_singleton, List.append_nil]⟩
  | cons u ts => exact ⟨_, commaSeparated_cons_cons t u ts⟩

theorem endsNumber_cons {c : Char} (hc : c.isDigit = false ∧ c ≠ '.' ∧ c ≠ 'e' ∧ c ≠ 'E')
    (r : List Char) : EndsNumber (c :: r) := by
  intro d s h
  cases h
  exact hc

theorem endsNumber_comma (r : List Char) : EndsNumber (',' :: r) :=
  endsNumber_cons (by decide) r

theorem readItems_write {levels : Nat} {j : Json} {js : List Json}
    (hread : ∀ i ∈ j :: js, ReadsBack levels i) (rest : List Char) :
    Takes (readItems (read levels)) (commaSeparated (writeItems (j :: js)) ++ ']' :: rest)
      (j :: js) rest := by
  induction js generalizing j with
  | nil =>
      have hends : EndsNumber (']' :: rest) := endsNumber_cons (by decide) rest
      rw [writeItems, writeItems, commaSeparated_singleton]
      exact readItems_last (hread j (.head _) _ hends)
  | cons k ks ih =>
      rw [writeItems, writeItems, commaSeparated_cons_cons, List.append_assoc]
      exact readItems_more (hread j (.head _) _ (endsNumber_comma _))
        (ih fun i hi => hread i (.tail j hi))

theorem readEntries_write {levels : Nat} {e : String × Json} {es : List (String × Json)}
    (hread : ∀ f ∈ e :: es, ReadsBack levels f.2) (rest : List Char) :
    Takes (readEntries (read levels)) (commaSeparated (writeEntries (e :: es)) ++ '\x7d' :: rest)
      (e :: es) rest := by
  induction es generalizing e with
  | nil =>
      have hends : EndsNumber ('\x7d' :: rest) := endsNumber_cons (by decide) rest
      rw [writeEntries, writeEntries, commaSeparated_singleton, List.append_assoc,
        List.cons_append]
      exact readEntries_last (readEntry_write (hread e (.head _) _ hends))
  | cons f fs ih =>
      rw [writeEntries, writeEntries, commaSeparated_cons_cons, List.append_assoc,
        List.append_assoc, List.cons_append]
      exact readEntries_more (readEntry_write (hread e (.head _) _ (endsNumber_comma _)))
        (ih fun g hg => hread g (.tail e hg))

/-! ### All documents -/

/-- No text of a document starts with white space or ends an array. -/
theorem exists_write_eq_cons {levels : Nat} {j : Json} (h : Readable levels j) :
    ∃ c r, j.write = c :: r ∧ isSpace c = false ∧ c ≠ ']' := by
  cases h with
  | null => exact ⟨'n', _, rfl, by decide, by decide⟩
  | bool b => cases b <;> exact ⟨_, _, rfl, by decide, by decide⟩
  | int hn =>
      obtain ⟨c, r, hcons, hc⟩ := exists_signedDigits_eq_cons _
      exact ⟨c, r, hcons, isSpace_of_ne hc, hc _ (by decide) (by decide)⟩
  | text t => exact ⟨'"', _, rfl, by decide, by decide⟩
  | array _ => exact ⟨'[', _, rfl, by decide, by decide⟩
  | object _ => exact ⟨'\x7b', _, rfl, by decide, by decide⟩

/-- Items that do not start with white space or the end of the array are its items. -/
theorem readArray_of_items {item : (s : List Char) → Option (Parsed Json s)} {c : Char}
    {r rest : List Char} {items : List Json} (hspace : isSpace c = false) (hc : c ≠ ']')
    (h : Takes (readItems item) (c :: r) items rest) :
    Takes (readArray item) (c :: r) (array items) rest := by
  obtain ⟨shorter, h⟩ := h
  have hskip : skipSpace (c :: r) = c :: r :=
    List.dropWhile_cons_of_neg (Bool.eq_false_iff.1 hspace)
  refine ⟨shorter, ?_⟩
  rw [readArray]
  split
  · next t heq =>
      rw [hskip] at heq
      cases heq
      exact absurd rfl hc
  · rw [h]
    rfl

/-- Entries that start with a name are those of the object. -/
theorem readObject_of_entries {item : (s : List Char) → Option (Parsed Json s)}
    {r rest : List Char} {entries : List (String × Json)}
    (h : Takes (readEntries item) ('"' :: r) entries rest) :
    Takes (readObject item) ('"' :: r) (object entries) rest := by
  obtain ⟨shorter, h⟩ := h
  refine ⟨shorter, ?_⟩
  change Option.map _ (readEntries item ('"' :: r)) = _
  rw [h]
  rfl

theorem read_array {levels : Nat} {s rest : List Char} {j : Json}
    (h : Takes (readArray (read levels)) s j rest) :
    Takes (read (levels + 1)) ('[' :: s) j rest := by
  obtain ⟨shorter, h⟩ := h
  refine ⟨Nat.lt_succ_of_lt shorter, ?_⟩
  rw [read_cons (by decide), if_pos rfl]
  exact congrArg (Option.map Parsed.after) h

theorem read_object {levels : Nat} {s rest : List Char} {j : Json}
    (h : Takes (readObject (read levels)) s j rest) :
    Takes (read (levels + 1)) ('\x7b' :: s) j rest := by
  obtain ⟨shorter, h⟩ := h
  refine ⟨Nat.lt_succ_of_lt shorter, ?_⟩
  rw [read_cons (by decide), if_neg (by decide), if_pos rfl]
  exact congrArg (Option.map Parsed.after) h

/-- **A document is read from its compact text**, whatever follows that does not go on with a
number. -/
theorem read_write {levels : Nat} {j : Json} (h : Readable levels j) : ReadsBack levels j := by
  induction h with
  | null => exact fun rest _ => read_null _ rest
  | bool b => exact fun rest _ => read_bool _ b rest
  | int hn => exact fun rest hrest => read_int _ hn hrest
  | text t => exact fun rest _ => read_text _ t rest
  | @array levels items hplain ih =>
      intro rest _
      rw [write, List.cons_append, List.append_assoc]
      refine read_array ?_
      cases items with
      | nil => exact ⟨Nat.lt_succ_self _, rfl⟩
      | cons j js =>
          have hitems := readItems_write ih rest
          obtain ⟨c, r, hcons, hspace, hc⟩ := exists_write_eq_cons (hplain j (.head _))
          obtain ⟨more, hmore⟩ := exists_commaSeparated_cons j.write (writeItems js)
          rw [writeItems, hmore, hcons] at hitems ⊢
          exact readArray_of_items hspace hc hitems
  | @object levels entries _ ih =>
      intro rest _
      rw [write, List.cons_append, List.append_assoc]
      refine read_object ?_
      cases entries with
      | nil => exact ⟨Nat.lt_succ_self _, rfl⟩
      | cons e es =>
          have hentries := readEntries_write ih rest
          obtain ⟨more, hmore⟩ :=
            exists_commaSeparated_cons (writeText e.1 ++ ':' :: e.2.write) (writeEntries es)
          rw [writeEntries, hmore] at hentries ⊢
          exact readObject_of_entries hentries

/-- **A document is the one in its compact text.** -/
theorem parse?_render {levels : Nat} {j : Json} (h : Readable levels j) :
    parse? levels j.render = some j := by
  have hread := read_write h [] nofun
  rw [List.append_nil] at hread
  obtain ⟨shorter, hread⟩ := hread
  rw [parse?, render, String.toList_ofList, hread]
  rfl

end ViewTree.Json
