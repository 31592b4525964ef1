import ViewTree.Proofs.Calc.Tokens

/-!
# Calc — how a text is taken apart

Nothing of a calculation's text is lost when it is scanned: its tokens and the layout between them
are the text again, and each token stands at its byte.

* `Laid`: tokens and layout that make up a text.  They are what the scan finds
  (`scanFrom_eq_ok_iff`).
* `refused_of_scanFrom`: a text is refused at a character, and what stands before it is laid out.
* `Laid.accepts`, `Laid.isInfix`: what may stand in a text with tokens, and where its paths stand.
* `scan_lossless`, `fault_of_scan`: the same for the bytes of a text.
-/

namespace ViewTree.Calc

open Text

/-! ### Bytes -/

theorem byteLength_append (s t : List Char) :
    byteLength (s ++ t) = byteLength s + byteLength t := by
  induction s with
  | nil => exact (Nat.zero_add _).symm
  | cons c s ih => rw [List.cons_append, byteLength, byteLength, ih, Nat.add_assoc]

theorem byteLength_eq (s : List Char) : byteLength s = (String.ofList s).utf8ByteSize := by
  induction s with
  | nil => rfl
  | cons c s ih =>
      rw [byteLength, ih, String.ofList_cons, String.utf8ByteSize_append,
        String.utf8ByteSize_singleton]

/-! ### The whole text -/

/-- Tokens and layout that make up a text, which starts at a given byte. -/
inductive Laid : Nat → List Char → List Token → Prop where
  | finish (offset : Nat) : Laid offset [] [⟨.finish, offset, []⟩]
  | layout {offset c s ts} : isLayout c = true → Laid (offset + byteLength [c]) s ts →
      Laid offset (c :: s) ts
  | token {t s ts} : t.kind ≠ .finish → t.Exact s →
      Laid (t.offset + byteLength t.spelling) s ts → Laid t.offset (t.spelling ++ s) (t :: ts)

namespace Laid

variable {offset : Nat} {s : List Char} {ts : List Token} {t : Token}

/-- A token that is read goes in front of what is left, or of less than that. -/
theorem of_next {c : Char} {read : Parsed Token (c :: s)}
    (hread : Token.next offset c s = .ok read) {others : List Char}
    (hshort : others <+: read.rest)
    (h : Laid (offset + byteLength read.value.spelling) others ts) :
    Laid offset (read.value.spelling ++ others) (read.value :: ts) := by
  have hoffset := Token.offset_of_next hread
  have hexact := (Token.exact_of_next hread).shortened hshort
  rw [← hoffset] at h ⊢
  exact .token (Token.kind_ne_finish_of_next hread) hexact h

theorem of_scanFrom (h : Token.scanFrom offset s = .ok ts) : Laid offset s ts := by
  fun_induction Token.scanFrom offset s generalizing ts with
  | case1 offset => cases h; exact .finish offset
  | case2 offset c s hc ih => exact .layout hc (ih h)
  | case3 offset c s hc ih =>
      obtain ⟨first, hfirst, h⟩ := exists_of_bind_eq_ok h
      obtain ⟨others, hothers, h⟩ := exists_of_bind_eq_ok h
      cases h
      have hlaid := Laid.of_next hfirst (List.prefix_refl _) (ih first hothers)
      rwa [Token.next_append hfirst] at hlaid

/-- The scan finds the tokens that make up a text. -/
theorem scanFrom_eq_ok (h : Laid offset s ts) : Token.scanFrom offset s = .ok ts := by
  induction h with
  | finish offset => rw [Token.scanFrom]
  | layout hc _ ih => rw [Token.scanFrom, if_pos hc, ih]
  | @token t s ts hkind hexact _ ih =>
      obtain ⟨c, more, hspelled, hstart⟩ := hexact.exists_spelling hkind
      obtain ⟨read, hread, hvalue, hrest⟩ := Token.next_of_exact hspelled hexact
      have hlayout : ¬ isLayout c = true := Bool.eq_false_iff.1 (isLayout_of_startsToken hstart)
      rw [hspelled, List.cons_append, Token.scanFrom, if_neg hlayout, hread]
      change (Token.scanFrom (t.offset + byteLength read.value.spelling) read.rest >>=
        fun others => .ok (read.value :: others)) = .ok (t :: ts)
      rw [hvalue, hrest, ih]
      rfl

/-- The last token stands at the end of the text, and no other one is an end. -/
theorem finish_eq (h : Laid offset s ts) :
    ∃ front, ts = front ++ [⟨.finish, offset + byteLength s, []⟩] ∧
      ∀ t ∈ front, t.kind ≠ .finish := by
  induction h with
  | finish offset => exact ⟨[], rfl, List.forall_mem_nil _⟩
  | @layout offset c s ts _ _ ih =>
      obtain ⟨front, rfl, hfront⟩ := ih
      have hlength : byteLength (c :: s) = byteLength [c] + byteLength s := byteLength_append [c] s
      refine ⟨front, ?_, hfront⟩
      rw [hlength, Nat.add_assoc]
  | @token t s ts hkind _ _ ih =>
      obtain ⟨front, rfl, hfront⟩ := ih
      refine ⟨t :: front, ?_, List.forall_mem_cons.2 ⟨hkind, hfront⟩⟩
      rw [byteLength_append, ← Nat.add_assoc, List.cons_append]

/-- Each token stands where its offset says. -/
theorem stands (h : Laid offset s ts) (ht : t ∈ ts) :
    ∃ before after, s = before ++ (t.spelling ++ after) ∧
      t.offset = offset + byteLength before ∧ t.Exact after := by
  induction h with
  | finish offset =>
      cases List.mem_singleton.1 ht
      exact ⟨[], [], rfl, rfl, .whole rfl, trivial⟩
  | @layout offset c s ts _ _ ih =>
      obtain ⟨before, after, rfl, hoffset, hexact⟩ := ih ht
      refine ⟨c :: before, after, rfl, ?_, hexact⟩
      rw [hoffset, Nat.add_assoc, ← byteLength_append]
      rfl
  | @token first s ts _ hexact _ ih =>
      rcases List.mem_cons.1 ht with rfl | ht
      · exact ⟨[], s, rfl, rfl, hexact⟩
      · obtain ⟨before, after, rfl, hoffset, hexact⟩ := ih ht
        refine ⟨first.spelling ++ before, after, (List.append_assoc ..).symm, ?_, hexact⟩
        rw [hoffset, Nat.add_assoc, ← byteLength_append]

/-- Later tokens start later. -/
theorem increasing (h : Laid offset s ts) : ts.Pairwise fun t u => t.offset < u.offset := by
  induction h with
  | finish offset => exact List.pairwise_singleton _ _
  | layout _ _ ih => exact ih
  | @token t s ts hkind hexact hrest ih =>
      refine List.pairwise_cons.2 ⟨fun u hu => ?_, ih⟩
      obtain ⟨before, -, -, hoffset, -⟩ := hrest.stands hu
      obtain ⟨c, more, hspelled, -⟩ := hexact.exists_spelling hkind
      have hsize : 0 < c.utf8Size := c.utf8Size_pos
      rw [hspelled, byteLength] at hoffset
      omega

end Laid

theorem scanFrom_eq_ok_iff {offset : Nat} {s : List Char} {ts : List Token} :
    Token.scanFrom offset s = .ok ts ↔ Laid offset s ts :=
  ⟨.of_scanFrom, Laid.scanFrom_eq_ok⟩

/-- A text that is refused is refused at one of its characters, with tokens and layout in front of
it. -/
theorem refused_of_scanFrom {offset : Nat} {s : List Char} {f : Fault}
    (h : Token.scanFrom offset s = .error f) :
    ∃ before c after, s = before ++ c :: after ∧ isLayout c = false ∧
      Token.next (offset + byteLength before) c after = .error f ∧ ∃ ts, Laid offset before ts := by
  fun_induction Token.scanFrom offset s with
  | case1 offset => cases h
  | case2 offset d s hd ih =>
      obtain ⟨before, c, after, rfl, hlayout, hnext, ts, hlaid⟩ := ih h
      refine ⟨d :: before, c, after, rfl, hlayout, ?_, ts, .layout hd hlaid⟩
      rw [Nat.add_assoc, ← byteLength_append] at hnext
      exact hnext
  | case3 offset d s hd ih =>
      rcases exists_of_bind_eq_error h with h | ⟨first, hfirst, h⟩
      · exact ⟨[], d, s, rfl, Bool.eq_false_iff.2 hd, h, _, .finish offset⟩
      · rcases exists_of_bind_eq_error h with h | ⟨others, -, h⟩
        · obtain ⟨before, c, after, hrest, hlayout, hnext, ts, hlaid⟩ := ih first h
          have htext : first.value.spelling ++ first.rest =
              (first.value.spelling ++ before) ++ c :: after := by
            rw [hrest, List.append_assoc]
          have hshort : before <+: first.rest := hrest ▸ List.prefix_append before (c :: after)
          rw [Nat.add_assoc, ← byteLength_append] at hnext
          exact ⟨_, c, after, (Token.next_append hfirst).symm.trans htext, hlayout, hnext, _,
            .of_next hfirst hshort hlaid⟩
        · cases h

/-! ### The characters of a text -/

namespace Token

/-- The characters between and in tokens. -/
def accepts (c : Char) : Bool :=
  isLayout c || (Sign.ofChar? c).isSome || startsNumber c || continuesPath c

theorem continuesPath_of_startsPath {c : Char} (h : startsPath c = true) :
    continuesPath c = true := by
  have halpha : c.isAlpha = true → c.isAlphanum = true := fun hc => Bool.or_eq_true_iff.2 (.inl hc)
  simp only [startsPath, continuesPath, Bool.or_eq_true] at h ⊢
  rcases h with (h | h) | h
  · simp [halpha h]
  · simp [h]
  · simp [h]

theorem accepts_of_spells {kind : Kind} {s : List Char} (h : kind.Spells s) {c : Char}
    (hc : c ∈ s) : accepts c = true := by
  simp only [accepts, Bool.or_eq_true]
  cases kind with
  | number x =>
      have hnumber : SpellsNumber s := h
      exact .inl (.inr (startsNumber_iff.2 (hnumber.digits c hc)))
  | path p =>
      obtain ⟨d, t, rfl, hstart, hall⟩ := h
      rcases List.mem_cons.1 hc with rfl | hc
      · exact .inr (continuesPath_of_startsPath hstart)
      · exact .inr (hall c hc)
  | sign mark =>
      cases h
      cases List.mem_singleton.1 hc
      exact .inl (.inl (.inr (mark.ofChar?_char ▸ rfl)))
  | finish =>
      cases h
      cases hc

end Token

/-- A text that is laid out in tokens has no other characters. -/
theorem Laid.accepts {offset : Nat} {s : List Char} {ts : List Token} (h : Laid offset s ts)
    {c : Char} (hc : c ∈ s) : Token.accepts c = true := by
  induction h with
  | finish offset => cases hc
  | layout hlayout _ ih =>
      rcases List.mem_cons.1 hc with rfl | hc
      · simp only [Token.accepts, hlayout, Bool.true_or]
      · exact ih hc
  | token _ hexact _ ih =>
      rcases List.mem_append.1 hc with hc | hc
      · exact Token.accepts_of_spells hexact.longest.fits hc
      · exact ih hc

/-- The paths among the tokens of a text occur in it. -/
theorem Laid.isInfix {offset : Nat} {s : List Char} {ts : List Token} (h : Laid offset s ts)
    {t : Token} (ht : t ∈ ts) {p : String} (hp : t.kind = .path p) : p.toList <:+: s := by
  obtain ⟨before, after, rfl, -, hexact⟩ := h.stands ht
  have hmeans := hexact.means
  rw [hp] at hmeans
  have hspelled : p.toList = t.spelling := hmeans
  exact ⟨before, after, by rw [hspelled, List.append_assoc]⟩

/-! ### The bytes of a text -/

theorem eq_append_of_toList {body : String} {before s after : List Char}
    (h : body.toList = before ++ (s ++ after)) :
    body = String.ofList before ++ String.ofList s ++ String.ofList after := by
  rw [← String.ofList_append, ← String.ofList_append, List.append_assoc, ← h, String.ofList_toList]

/-- Tokens from which no byte of a text is missing. -/
structure Token.Partition (body : String) (ts : List Token) : Prop where
  /-- With the layout between them they are the text. -/
  laid : Laid 0 body.toList ts
  increasing : ts.Pairwise fun t u => t.offset < u.offset
  /-- The last one, and no other one, is the end of the text. -/
  finish : ∃ front, ts = front ++ [⟨.finish, body.utf8ByteSize, []⟩] ∧
    ∀ t ∈ front, t.kind ≠ .finish
  /-- Each is spelled by the characters between two places of the text. -/
  spans : ∀ t ∈ ts, ∃ before after, body = before ++ String.ofList t.spelling ++ after ∧
    t.offset = before.utf8ByteSize ∧ t.Exact after.toList

/-- The character at a byte of a text is the first one that fits no token. -/
structure Token.Refused (body : String) (c : Char) (n : Nat) : Prop where
  layout : isLayout c = false
  /-- No kind of token is spelled with the character at the front. -/
  starts : ∀ (kind : Kind) (s : List Char), ¬ kind.Spells (c :: s)
  /-- The text in front of it has tokens of its own. -/
  stands : ∃ before after, body = before ++ String.singleton c ++ after ∧
    n = before.utf8ByteSize ∧ ∃ ts, scan before.toList = .ok ts

theorem Laid.partition {body : String} {ts : List Token} (h : Laid 0 body.toList ts) :
    Token.Partition body ts := by
  refine ⟨h, h.increasing, ?_, fun t ht => ?_⟩
  · obtain ⟨front, hts, hfront⟩ := h.finish_eq
    rw [Nat.zero_add, byteLength_eq, String.ofList_toList] at hts
    exact ⟨front, hts, hfront⟩
  · obtain ⟨before, after, hbody, hoffset, hexact⟩ := h.stands ht
    refine ⟨String.ofList before, String.ofList after, eq_append_of_toList hbody, ?_, ?_⟩
    · rw [hoffset, Nat.zero_add, byteLength_eq]
    · rw [String.toList_ofList]
      exact hexact

/-- **Nothing of a text is lost.**  A text has the tokens that are the text again together with the
layout between them, each token at its byte and as long as it can be, and it has no tokens if there
are none such.  A character that is refused stands at its byte, no token starts with it, and the
text in front of it has tokens of its own. -/
theorem scan_lossless (body : String) :
    (∀ ts, Token.scan body.toList = .ok ts ↔ Token.Partition body ts) ∧
      ∀ c n, Token.scan body.toList = .error (.strayChar c n) → Token.Refused body c n := by
  constructor
  · intro ts
    exact ⟨fun h => (Laid.of_scanFrom h).partition, fun h => h.laid.scanFrom_eq_ok⟩
  · intro c n h
    obtain ⟨before, d, after, hbody, hlayout, hnext, ts, hlaid⟩ := refused_of_scanFrom h
    rw [Nat.zero_add, byteLength_eq] at hnext
    obtain ⟨hfault, hstart⟩ | ⟨hfault, -⟩ := Token.next_eq_error hnext
    · cases hfault
      refine ⟨hlayout, fun kind s hs => ?_, String.ofList before, String.ofList after, ?_, rfl,
        ts, ?_⟩
      · rw [Kind.startsToken_of_spells hs] at hstart
        cases hstart
      · rw [String.singleton_eq_ofList]
        exact eq_append_of_toList hbody
      · rw [String.toList_ofList]
        exact hlaid.scanFrom_eq_ok
    · cases hfault

/-- A text of three tokens. -/
def halvedText : String :=
  "a[0] *.5"

/-- Two tokens and a character that fits none. -/
def accentedText : String :=
  "x\t+é1"

/-- The tokens of `halvedText`. -/
def halvedTokens : List Token :=
  [⟨.path "a[0]", 0, ['a', '[', '0', ']']⟩, ⟨.sign .times, 5, ['*']⟩,
    ⟨.number (Float.ofScientific 5 true 1), 6, ['.', '5']⟩, ⟨.finish, 8, []⟩]

theorem scan_lossless_halvedText :
    Token.scan halvedText.toList = .ok halvedTokens ∧ Token.Partition halvedText halvedTokens ∧
      Token.scan accentedText.toList = .error (.strayChar 'é' 3) ∧
      Token.Refused accentedText 'é' 3 := by
  have hscan : Token.scan halvedText.toList = .ok halvedTokens := by with_unfolding_all rfl
  have hstray : Token.scan accentedText.toList = .error (.strayChar 'é' 3) := by
    with_unfolding_all rfl
  exact ⟨hscan, ((scan_lossless halvedText).1 _).1 hscan, hstray,
    (scan_lossless accentedText).2 _ _ hstray⟩

/-- Every other refusal is that of a point with no digit behind it. -/
theorem fault_of_scan {body : String} {f : Fault} (h : Token.scan body.toList = .error f) :
    (∃ c n, f = .strayChar c n) ∨
      ∃ before after, body = before ++ "." ++ after ∧
        f = .misplaced "'.'" before.utf8ByteSize .digits ∧
        ∀ d, after.toList.head? = some d → d.isDigit = false := by
  obtain ⟨before, c, after, hbody, -, hnext, -⟩ := refused_of_scanFrom h
  obtain ⟨rfl, -⟩ | ⟨rfl, rfl, hdigit⟩ := Token.next_eq_error hnext
  · exact .inl ⟨c, _, rfl⟩
  · have htext : body = String.ofList before ++ "." ++ String.ofList after :=
      eq_append_of_toList (s := ['.']) hbody
    refine .inr ⟨String.ofList before, String.ofList after, htext, ?_, ?_⟩
    · rw [Nat.zero_add, byteLength_eq]
    · rw [String.toList_ofList]
      exact hdigit

end ViewTree.Calc
