import Mathlib.Data.List.TakeWhile
import ViewTree.Calc.Token
import ViewTree.Proofs.Text.Numerals

/-!
# Calc — how a token is read

A token is spelled by the longest piece at the front of a text that fits its kind, and there is one
such piece at most (`Longest.eq`), so that the piece is determined by the kind.

* `Kind.Spells`, `Kind.Means`: the texts that a kind is spelled with and what they say.
* `Token.exact_of_next`, `Token.next_of_exact`: what is read is what the front of the text says, and
  the other way round.
* `Token.next_cases`, `Token.next_eq_error`: all that is read and all that is refused.
-/

namespace ViewTree.Calc

open Text

/-- A sequence of two steps succeeds when both do. -/
theorem exists_of_bind_eq_ok {ε α β : Type} {x : Except ε α} {f : α → Except ε β} {b : β}
    (h : x >>= f = .ok b) : ∃ a, x = .ok a ∧ f a = .ok b := by
  cases x with
  | error e => cases h
  | ok a => exact ⟨a, rfl, h⟩

/-- A sequence of two steps fails in one of them. -/
theorem exists_of_bind_eq_error {ε α β : Type} {x : Except ε α} {f : α → Except ε β} {e : ε}
    (h : x >>= f = .error e) : x = .error e ∨ ∃ a, x = .ok a ∧ f a = .error e := by
  cases x with
  | error e => cases h; exact .inl rfl
  | ok a => exact .inr ⟨a, rfl, h⟩

/-! ### The longest piece -/

/-- `s` has the property, and with more of `rest` behind it it has not. -/
structure Longest (P : List Char → Prop) (s rest : List Char) : Prop where
  fits : P s
  ends : ∀ more, more <+: rest → P (s ++ more) → more = []

section Longest

variable {P : List Char → Prop} {s t rest others : List Char}

/-- Nothing is longer than the whole text. -/
theorem Longest.whole (h : P s) : Longest P s [] :=
  ⟨h, fun _ hmore _ => List.prefix_nil.1 hmore⟩

/-- With less text behind it, a longest piece is still the longest. -/
theorem Longest.shortened (h : Longest P s rest) (hshort : others <+: rest) :
    Longest P s others :=
  ⟨h.fits, fun more hmore => h.ends more (hmore.trans hshort)⟩

/-- A text has one longest piece. -/
theorem Longest.eq (hs : Longest P s rest) (ht : Longest P t others)
    (h : s ++ rest = t ++ others) : s = t ∧ rest = others := by
  -- one of the two goes on as the other, and then by nothing
  rcases List.append_eq_append_iff.1 h with ⟨more, rfl, rfl⟩ | ⟨more, rfl, rfl⟩
  · cases hs.ends more (List.prefix_append more others) ht.fits
    exact ⟨(List.append_nil s).symm, rfl⟩
  · cases ht.ends more (List.prefix_append more rest) hs.fits
    exact ⟨List.append_nil t, rfl⟩

end Longest

/-! ### What a kind is spelled with -/

/-- Digits with at most one point among them. -/
structure SpellsNumber (s : List Char) : Prop where
  ne_nil : s ≠ []
  digits : ∀ c ∈ s, c.isDigit = true ∨ c = '.'
  points : s.count '.' ≤ 1

/-- A character that starts a path, and characters of a path behind it. -/
def SpellsPath (s : List Char) : Prop :=
  ∃ c t, s = c :: t ∧ startsPath c = true ∧ ∀ d ∈ t, continuesPath d = true

/-- The texts that a kind of token is spelled with. -/
def Kind.Spells : Kind → List Char → Prop
  | .number _, s => SpellsNumber s
  | .path _, s => SpellsPath s
  | .sign mark, s => s = [mark.char]
  | .finish, s => s = []

/-- The text says which number or path it is. -/
def Kind.Means : Kind → List Char → Prop
  | .number x, s => Number.parse? s = some x
  | .path p, s => p.toList = s
  | .sign _, _ => True
  | .finish, _ => True

/-- The token is what the front of a text says, with `rest` behind it. -/
structure Token.Exact (t : Token) (rest : List Char) : Prop where
  longest : Longest t.kind.Spells t.spelling rest
  means : t.kind.Means t.spelling

theorem Token.Exact.shortened {t : Token} {rest others : List Char} (h : t.Exact rest)
    (hshort : others <+: rest) : t.Exact others :=
  ⟨h.longest.shortened hshort, h.means⟩

/-! ### The first character -/

theorem Sign.ofChar?_char (sign : Sign) : Sign.ofChar? sign.char = some sign := by
  cases sign <;> decide

theorem Sign.char_of_ofChar? {c : Char} {sign : Sign} (h : Sign.ofChar? c = some sign) :
    sign.char = c := by
  have hfound : (sign.char == c) = true :=
    List.find?_some (p := fun sign : Sign => sign.char == c) h
  exact beq_iff_eq.1 hfound

/-- Some token starts with the character. -/
def startsToken (c : Char) : Bool :=
  (Sign.ofChar? c).isSome || startsNumber c || startsPath c

theorem startsNumber_iff {c : Char} : startsNumber c = true ↔ c.isDigit = true ∨ c = '.' := by
  rw [startsNumber, Bool.or_eq_true_iff, beq_iff_eq]

theorem Kind.startsToken_of_spells {kind : Kind} {c : Char} {s : List Char}
    (h : kind.Spells (c :: s)) : startsToken c = true := by
  simp only [startsToken, Bool.or_eq_true]
  cases kind with
  | number x =>
      have hnumber : SpellsNumber (c :: s) := h
      exact .inl (.inr (startsNumber_iff.2 (hnumber.digits c (.head s))))
  | path p =>
      obtain ⟨d, t, hd, hstart, -⟩ := h
      cases hd
      exact .inr hstart
  | sign mark =>
      cases h
      exact .inl (.inl (mark.ofChar?_char ▸ rfl))
  | finish => cases h

/-- A token that is not the end is spelled with a character that starts a token. -/
theorem Token.Exact.exists_spelling {t : Token} {rest : List Char} (h : t.Exact rest)
    (hkind : t.kind ≠ .finish) :
    ∃ c more, t.spelling = c :: more ∧ startsToken c = true := by
  have hfits := h.longest.fits
  cases hspelled : t.spelling with
  | cons c more =>
      rw [hspelled] at hfits
      exact ⟨c, more, rfl, Kind.startsToken_of_spells hfits⟩
  | nil =>
      rw [hspelled] at hfits
      cases hk : t.kind with
      | number x => rw [hk] at hfits; exact absurd rfl hfits.ne_nil
      | path p => rw [hk] at hfits; obtain ⟨_, _, hcons, -⟩ := hfits; cases hcons
      | sign mark => rw [hk] at hfits; cases hfits
      | finish => exact absurd hk hkind

theorem isLayout_of_startsToken {c : Char} (h : startsToken c = true) : isLayout c = false := by
  rw [Bool.eq_false_iff]
  intro hlayout
  simp only [isLayout, Bool.or_eq_true, beq_iff_eq] at hlayout
  rcases hlayout with (((rfl | rfl) | rfl) | rfl) | rfl <;> exact absurd h (by decide)

theorem toNat_of_isAlpha {c : Char} (h : c.isAlpha = true) :
    (65 ≤ c.toNat ∧ c.toNat ≤ 90) ∨ (97 ≤ c.toNat ∧ c.toNat ≤ 122) := by
  rcases Bool.or_eq_true_iff.1 h with hupper | hlower
  · exact .inl (of_decide_eq_true hupper)
  · have hrange := Bool.and_eq_true_iff.1 hlower
    exact .inr ⟨of_decide_eq_true hrange.1, of_decide_eq_true hrange.2⟩

theorem startsNumber_of_startsPath {c : Char} (h : startsPath c = true) :
    startsNumber c = false := by
  rw [Bool.eq_false_iff]
  intro hnumber
  rcases startsNumber_iff.1 hnumber with hdigit | rfl
  · have hrange := toNat_of_isDigit hdigit
    simp only [startsPath, Bool.or_eq_true, beq_iff_eq] at h
    rcases h with (halpha | rfl) | rfl
    · have halpha := toNat_of_isAlpha halpha
      omega
    · cases hdigit
    · cases hdigit
  · exact absurd h (by decide)

/-- A class of characters without signs. -/
theorem ofChar?_eq_none {p : Char → Bool} (hp : ∀ sign : Sign, p sign.char = false) {c : Char}
    (h : p c = true) : Sign.ofChar? c = none := by
  cases hsign : Sign.ofChar? c with
  | none => rfl
  | some sign =>
      rw [← Sign.char_of_ofChar? hsign, hp sign] at h
      cases h

theorem ofChar?_of_startsNumber {c : Char} (h : startsNumber c = true) :
    Sign.ofChar? c = none :=
  ofChar?_eq_none (fun sign => by cases sign <;> decide) h

theorem ofChar?_of_startsPath {c : Char} (h : startsPath c = true) : Sign.ofChar? c = none :=
  ofChar?_eq_none (fun sign => by cases sign <;> decide) h

/-! ### Numbers -/

/-- What may stand behind the first character of a number: digits and points, of which there are
none if there was one before and at most one otherwise. -/
structure ContinuesNumber (pointBefore : Bool) (s : List Char) : Prop where
  digits : ∀ c ∈ s, c.isDigit = true ∨ c = '.'
  points : s.count '.' ≤ (!pointBefore).toNat

theorem continuesNumber_cons_iff {pointBefore : Bool} {c : Char} {s : List Char} :
    ContinuesNumber pointBefore (c :: s) ↔
      (c.isDigit || (c == '.' && !pointBefore)) = true ∧
        ContinuesNumber (pointBefore || c == '.') s := by
  by_cases hpoint : c = '.'
  · subst hpoint
    rw [beq_self_eq_true, Bool.true_and, Bool.or_true]
    cases pointBefore with
    | false =>
        constructor
        · intro h
          have hpoints := h.points
          rw [List.count_cons_self] at hpoints
          exact ⟨rfl, fun d hd => h.digits d (.tail _ hd), Nat.le_of_succ_le_succ hpoints⟩
        · rintro ⟨-, h⟩
          refine ⟨List.forall_mem_cons.2 ⟨.inr rfl, h.digits⟩, ?_⟩
          rw [List.count_cons_self]
          exact Nat.succ_le_succ h.points
    | true =>
        constructor
        · intro h
          have hpoints := h.points
          rw [List.count_cons_self] at hpoints
          exact absurd hpoints (Nat.not_succ_le_zero _)
        · rintro ⟨hdigit, -⟩
          exact absurd hdigit (by decide)
  · have hfirst : (c == '.') = false := beq_eq_false_iff_ne.2 hpoint
    rw [hfirst, Bool.false_and, Bool.or_false, Bool.or_false]
    constructor
    · intro h
      have hpoints := h.points
      rw [List.count_cons_of_ne hpoint] at hpoints
      exact ⟨(h.digits c (.head s)).resolve_right hpoint, fun d hd => h.digits d (.tail c hd),
        hpoints⟩
    · rintro ⟨hdigit, h⟩
      refine ⟨List.forall_mem_cons.2 ⟨.inl hdigit, h.digits⟩, ?_⟩
      rw [List.count_cons_of_ne hpoint]
      exact h.points

theorem spellsNumber_cons_iff {c : Char} {s : List Char} :
    SpellsNumber (c :: s) ↔ startsNumber c = true ∧ ContinuesNumber (c == '.') s := by
  have hcons : SpellsNumber (c :: s) ↔ ContinuesNumber false (c :: s) :=
    ⟨fun h => ⟨h.digits, h.points⟩, fun h => ⟨List.cons_ne_nil c s, h.digits, h.points⟩⟩
  rw [hcons, continuesNumber_cons_iff, Bool.not_false, Bool.and_true, Bool.false_or, startsNumber]

theorem longest_numberTail (pointBefore : Bool) (s : List Char) :
    Longest (ContinuesNumber pointBefore) (numberTail pointBefore s).1
      (numberTail pointBefore s).2 := by
  induction s generalizing pointBefore with
  | nil => exact .whole ⟨List.forall_mem_nil _, Nat.zero_le _⟩
  | cons c s ih =>
      rw [numberTail]
      split
      · next hc =>
          have hlongest := ih (pointBefore || c == '.')
          refine ⟨continuesNumber_cons_iff.2 ⟨hc, hlongest.fits⟩, fun more hmore h => ?_⟩
          exact hlongest.ends more hmore (continuesNumber_cons_iff.1 h).2
      · next hc =>
          refine ⟨⟨List.forall_mem_nil _, Nat.zero_le _⟩, fun more hmore h => ?_⟩
          cases more with
          | nil => rfl
          | cons d more =>
              obtain ⟨rfl, -⟩ := List.cons_prefix_cons.1 hmore
              exact absurd (continuesNumber_cons_iff.1 h).1 hc

/-- A number goes on for as long as it can. -/
theorem longest_number {c : Char} (hc : startsNumber c = true) (s : List Char) :
    Longest SpellsNumber (c :: (numberTail (c == '.') s).1) (numberTail (c == '.') s).2 := by
  have hlongest := longest_numberTail (c == '.') s
  refine ⟨spellsNumber_cons_iff.2 ⟨hc, hlongest.fits⟩, fun more hmore h => ?_⟩
  exact hlongest.ends more hmore (spellsNumber_cons_iff.1 h).2

/-- A point stands between digits, if there is one. -/
theorem SpellsNumber.parts {s : List Char} (h : SpellsNumber s) :
    (∀ c ∈ s, c.isDigit = true) ∨ ∃ whole fraction, s = whole ++ '.' :: fraction ∧
      (∀ c ∈ whole, c.isDigit = true) ∧ ∀ c ∈ fraction, c.isDigit = true := by
  by_cases hpoint : '.' ∈ s
  · obtain ⟨whole, fraction, rfl⟩ := List.append_of_mem hpoint
    have hpoints := h.points
    rw [List.count_append, List.count_cons_self] at hpoints
    have hwhole : '.' ∉ whole := List.count_eq_zero.1 (by omega)
    have hfraction : '.' ∉ fraction := List.count_eq_zero.1 (by omega)
    refine .inr ⟨whole, fraction, rfl, fun c hc => ?_, fun c hc => ?_⟩
    · exact (h.digits c (List.mem_append_left _ hc)).resolve_right fun hc' => hwhole (hc' ▸ hc)
    · exact (h.digits c (List.mem_append_right _ (.tail _ hc))).resolve_right
        fun hc' => hfraction (hc' ▸ hc)
  · exact .inl fun c hc => (h.digits c hc).resolve_right fun hc' => hpoint (hc' ▸ hc)

theorem isSome_written?_of_spellsNumber {s : List Char} (h : SpellsNumber s) (hs : s ≠ ['.']) :
    (Number.written? s).isSome = true := by
  rw [Number.written?]
  obtain hdigits | ⟨whole, fraction, rfl, hwhole, hfraction⟩ := h.parts
  · rw [List.takeWhile_eq_self_iff.2 hdigits, List.dropWhile_eq_nil_iff.2 hdigits]
    simp [h.ne_nil]
  · have hsome : (whole.isEmpty && fraction.isEmpty) = false := by
      rw [Bool.eq_false_iff]
      intro hempty
      rw [Bool.and_eq_true_iff, List.isEmpty_iff, List.isEmpty_iff] at hempty
      exact hs (by rw [hempty.1, hempty.2]; rfl)
    have htake : (whole ++ '.' :: fraction).takeWhile Char.isDigit = whole := by
      rw [List.takeWhile_append_of_pos hwhole, List.takeWhile_cons_of_neg (by decide),
        List.append_nil]
    have hdrop : (whole ++ '.' :: fraction).dropWhile Char.isDigit = '.' :: fraction := by
      rw [List.dropWhile_append_of_pos hwhole, List.dropWhile_cons_of_neg (by decide)]
    rw [htake, hdrop]
    simp [List.takeWhile_eq_self_iff.2 hfraction, List.dropWhile_eq_nil_iff.2 hfraction, hsome]

/-- Digits with at most one point are a number unless the point is all there is. -/
theorem isSome_parse?_of_spellsNumber {s : List Char} (h : SpellsNumber s) (hs : s ≠ ['.']) :
    (Number.parse? s).isSome = true := by
  have hunsigned : (Number.unsigned? s).isSome = true := by
    rw [Number.unsigned?]
    split
    · rfl
    · split
      · rfl
      · rw [Option.isSome_map]
        exact isSome_written?_of_spellsNumber h hs
  rw [Number.parse?.eq_def]
  split
  · exact absurd (h.digits '-' (.head _)) (by decide)
  · exact absurd (h.digits '+' (.head _)) (by decide)
  · exact hunsigned

/-! ### Paths -/

/-- A path goes on for as long as it can. -/
theorem longest_path {c : Char} (hc : startsPath c = true) (s : List Char) :
    Longest SpellsPath (c :: s.takeWhile continuesPath) (s.dropWhile continuesPath) := by
  refine ⟨⟨c, _, rfl, hc, List.all_eq_true.1 List.all_takeWhile⟩, fun more hmore h => ?_⟩
  cases more with
  | nil => rfl
  | cons d more =>
      obtain ⟨_, _, hcons, -, hall⟩ := h
      cases hcons
      have hinside : continuesPath d = true :=
        hall d (List.mem_append_right _ (.head more))
      obtain ⟨rest, hrest⟩ := hmore
      have houtside := List.head?_dropWhile_not continuesPath s
      rw [← hrest] at houtside
      exact absurd hinside (by simpa using houtside)

/-! ### One token -/

theorem longest_singleton (c : Char) (s : List Char) : Longest (· = [c]) [c] s :=
  ⟨rfl, fun _ _ h => (List.cons.inj h).2⟩

namespace Token

/-- What `next` reads: a sign, a number or a path, whichever its first character starts. -/
theorem next_cases {offset : Nat} {c : Char} {s : List Char} {t : Parsed Token (c :: s)}
    (h : next offset c s = .ok t) :
    (∃ sign, Sign.ofChar? c = some sign ∧ t.value = ⟨.sign sign, offset, [c]⟩ ∧ t.rest = s) ∨
    (∃ x, startsNumber c = true ∧
      Number.parse? (c :: (numberTail (c == '.') s).1) = some x ∧
      t.value = ⟨.number x, offset, c :: (numberTail (c == '.') s).1⟩ ∧
      t.rest = (numberTail (c == '.') s).2) ∨
    (startsPath c = true ∧
      t.value = ⟨.path (String.ofList (c :: s.takeWhile continuesPath)), offset,
        c :: s.takeWhile continuesPath⟩ ∧
      t.rest = s.dropWhile continuesPath) := by
  rw [next] at h
  split at h
  · next sign hsign => cases h; exact .inl ⟨sign, hsign, rfl, rfl⟩
  · split at h
    · next hstart =>
        rw [number] at h
        split at h
        · next x hx => cases h; exact .inr (.inl ⟨x, hstart, hx, rfl, rfl⟩)
        · cases h
    · split at h
      · next hstart => cases h; exact .inr (.inr ⟨hstart, rfl, rfl⟩)
      · cases h

/-- A token and what follows it are the text. -/
theorem next_append {offset : Nat} {c : Char} {s : List Char} {t : Parsed Token (c :: s)}
    (h : next offset c s = .ok t) : t.value.spelling ++ t.rest = c :: s := by
  obtain ⟨sign, -, ht, hrest⟩ | ⟨x, -, -, ht, hrest⟩ | ⟨-, ht, hrest⟩ := next_cases h
  · rw [ht, hrest]
    rfl
  · rw [ht, hrest]
    exact congrArg (c :: ·) (numberTail_append _ s)
  · rw [ht, hrest]
    exact congrArg (c :: ·) List.takeWhile_append_dropWhile

theorem kind_ne_finish_of_next {offset : Nat} {c : Char} {s : List Char}
    {t : Parsed Token (c :: s)} (h : next offset c s = .ok t) : t.value.kind ≠ .finish := by
  intro hkind
  obtain ⟨sign, -, ht, -⟩ | ⟨x, -, -, ht, -⟩ | ⟨-, ht, -⟩ := next_cases h
  all_goals
    rw [ht] at hkind
    cases hkind

theorem next_of_startsPath {c : Char} (h : startsPath c = true) (offset : Nat) (s : List Char) :
    next offset c s = .ok (path offset c s) := by
  rw [next, ofChar?_of_startsPath h]
  simp [startsNumber_of_startsPath h, h]

/-- What `next` reads is what the front of the text says. -/
theorem exact_of_next {offset : Nat} {c : Char} {s : List Char} {t : Parsed Token (c :: s)}
    (h : next offset c s = .ok t) : t.value.Exact t.rest := by
  obtain ⟨sign, hsign, ht, hrest⟩ | ⟨x, hstart, hx, ht, hrest⟩ | ⟨hstart, ht, hrest⟩ := next_cases h
  · rw [ht, hrest, ← Sign.char_of_ofChar? hsign]
    exact ⟨longest_singleton sign.char s, trivial⟩
  · rw [ht, hrest]
    exact ⟨longest_number hstart s, hx⟩
  · rw [ht, hrest]
    exact ⟨longest_path hstart s, String.toList_ofList⟩

theorem offset_of_next {offset : Nat} {c : Char} {s : List Char} {t : Parsed Token (c :: s)}
    (h : next offset c s = .ok t) : t.value.offset = offset := by
  obtain ⟨sign, -, ht, -⟩ | ⟨x, -, -, ht, -⟩ | ⟨-, ht, -⟩ := next_cases h
  all_goals rw [ht]

theorem number_eq_ok {c : Char} {s : List Char} {x : Float}
    (h : Number.parse? (c :: (numberTail (c == '.') s).1) = some x) (offset : Nat) :
    ∃ read, number offset c s = .ok read ∧
      read.value = ⟨.number x, offset, c :: (numberTail (c == '.') s).1⟩ ∧
      read.rest = (numberTail (c == '.') s).2 := by
  rw [number]
  split
  · next y hy =>
      cases h.symm.trans hy
      exact ⟨_, rfl, rfl, rfl⟩
  · next hnone => cases h.symm.trans hnone

/-- What the front of a text says is what `next` reads. -/
theorem next_of_exact {t : Token} {c : Char} {s rest : List Char} (hspelled : t.spelling = c :: s)
    (h : t.Exact rest) :
    ∃ read, next t.offset c (s ++ rest) = .ok read ∧ read.value = t ∧ read.rest = rest := by
  obtain ⟨kind, offset, spelling⟩ := t
  cases hspelled
  have hlongest : Longest kind.Spells (c :: s) rest := h.longest
  cases kind with
  | number x =>
      have hstart : startsNumber c = true := (spellsNumber_cons_iff.1 hlongest.fits).1
      obtain ⟨hspelled, hrest⟩ := (longest_number hstart (s ++ rest)).eq hlongest
        (congrArg (c :: ·) (numberTail_append _ _))
      have hx : Number.parse? (c :: (numberTail (c == '.') (s ++ rest)).1) = some x := by
        rw [hspelled]
        exact h.means
      obtain ⟨read, hread, hvalue, hend⟩ := number_eq_ok hx offset
      rw [hspelled] at hvalue
      rw [next, ofChar?_of_startsNumber hstart]
      exact ⟨read, (if_pos hstart).trans hread, hvalue, hend.trans hrest⟩
  | path p =>
      obtain ⟨_, _, hcons, hstart, -⟩ := hlongest.fits
      cases hcons
      obtain ⟨hspelled, hrest⟩ := (longest_path hstart (s ++ rest)).eq hlongest
        (congrArg (c :: ·) List.takeWhile_append_dropWhile)
      have hp : p.toList = c :: s := h.means
      refine ⟨_, next_of_startsPath hstart offset (s ++ rest), ?_, hrest⟩
      rw [path, hspelled, ← hp, String.ofList_toList]
  | sign mark =>
      cases hlongest.fits
      rw [next, mark.ofChar?_char]
      exact ⟨_, rfl, rfl, rfl⟩
  | finish => cases hlongest.fits

/-- What `next` refuses: a character that starts no token, or a point without digits. -/
theorem next_eq_error {offset : Nat} {c : Char} {s : List Char} {f : Fault}
    (h : next offset c s = .error f) :
    (f = .strayChar c offset ∧ startsToken c = false) ∨
      (f = .misplaced "'.'" offset .digits ∧ c = '.' ∧
        ∀ d, s.head? = some d → d.isDigit = false) := by
  rw [next] at h
  split at h
  · cases h
  · next hsign =>
      split at h
      · next hstart =>
          rw [number] at h
          split at h
          · cases h
          · next hnone =>
              have hpoint : c :: (numberTail (c == '.') s).1 = ['.'] := by
                by_contra hne
                have hsome := isSome_parse?_of_spellsNumber (longest_number hstart s).fits hne
                rw [hnone] at hsome
                cases hsome
              cases h
              refine .inr ⟨by rw [hpoint]; rfl, (List.cons.inj hpoint).1, fun d hd => ?_⟩
              -- a digit would be the next character of the number
              obtain ⟨rest, rfl⟩ := List.head?_eq_some_iff.1 hd
              rw [Bool.eq_false_iff]
              intro hdigit
              rw [numberTail, hdigit] at hpoint
              cases hpoint
      · next hnumber =>
          split at h
          · cases h
          · next hpath =>
              cases h
              refine .inl ⟨rfl, ?_⟩
              rw [startsToken, hsign, Bool.eq_false_iff.2 hnumber, Bool.eq_false_iff.2 hpath]
              rfl

end Token

end ViewTree.Calc
