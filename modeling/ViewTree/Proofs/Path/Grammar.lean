import ViewTree.Path
import ViewTree.Proofs.Text.Blanks
import ViewTree.Proofs.Text.Cuts
import ViewTree.Proofs.Text.Numerals

/-!
# Path — the texts that are paths

A path is a list of parts with points between them, and a part is a key with its indices in
brackets behind it (`Part.Spelled`, `Spelled`).  An index may have blanks and a plus sign in front
of its digits, and blanks behind them; no other blank stands in a path.  A text is read exactly when
what is left of it without the blanks at its ends is spelled so, and the steps are those of the
parts in order (`parse?_eq_some_iff`).  The steps tell the parts apart (`steps_injective`), so there
is one way to read a text; `spelling` gives one text for each list of parts.
-/

namespace ViewTree.Path

open Text

/-! ### Key characters -/

theorem isKeyChar_of_isDigit {c : Char} (h : c.isDigit = true) : isKeyChar c = true := by
  have hascii : c.toNat < 0x80 := by
    have hrange := toNat_of_isDigit h
    omega
  have halphanum : c.isAlphanum = true := by rw [Char.isAlphanum, h, Bool.or_true]
  simp [isKeyChar, isAlphanumeric, hascii, halphanum]

/-- The code points of the blanks. -/
def blanks : List Nat :=
  [0x09, 0x0A, 0x0B, 0x0C, 0x0D, 0x20, 0x85, 0xA0, 0x1680, 0x2000, 0x2001, 0x2002, 0x2003, 0x2004,
   0x2005, 0x2006, 0x2007, 0x2008, 0x2009, 0x200A, 0x2028, 0x2029, 0x202F, 0x205F, 0x3000]

theorem isBlank_of_isKeyChar {c : Char} (h : isKeyChar c = true) : isBlank c = false := by
  -- no range of letters or numbers covers one of the blanks
  have hall : ∀ n ∈ blanks, isKeyChar (Char.ofNat n) = false := by decide +kernel
  rw [Bool.eq_false_iff]
  intro hblank
  have hmem : c.toNat ∈ blanks := by
    simp only [isBlank, Bool.or_eq_true, Bool.and_eq_true, decide_eq_true_eq, beq_iff_eq] at hblank
    simp only [blanks, List.mem_cons]
    omega
  have hfalse := hall c.toNat hmem
  rw [Char.ofNat_toNat, h] at hfalse
  cases hfalse

/-! ### The grammar -/

/-- A key and the indices behind it. -/
@[ext]
structure Part where
  key : List Char
  indices : List Nat
  inhabited : key ≠ []
  keyed : ∀ c ∈ key, isKeyChar c = true
  bounded : ∀ i ∈ indices, i < wordBound

/-- The step to the key and those to the indices. -/
def Part.steps (part : Part) : List Step :=
  .key (String.ofList part.key) :: part.indices.map .index

/-- How indices are spelled: each as a numeral in brackets, with blanks around it. -/
inductive Brackets : List Nat → List Char → Prop where
  | none : Brackets [] []
  | more {i : Nat} {is : List Nat} {inside s : List Char} (h : Numeral (trim inside) i)
      (hs : Brackets is s) : Brackets (i :: is) ('[' :: (inside ++ ']' :: s))

/-- How a part is spelled: the key, and the indices behind it. -/
inductive Part.Spelled (part : Part) : List Char → Prop where
  | intro {s : List Char} (h : Brackets part.indices s) : Spelled part (part.key ++ s)

/-- How parts are spelled: with a point between each and the next. -/
inductive Spelled : List Part → List Char → Prop where
  | single {part : Part} {s : List Char} (h : part.Spelled s) : Spelled [part] s
  | several {part : Part} {parts : List Part} {s t : List Char} (h : part.Spelled s)
      (ht : Spelled parts t) : Spelled (part :: parts) (s ++ '.' :: t)

/-! ### Indices -/

theorem Brackets.bounded {is : List Nat} {s : List Char} (h : Brackets is s) :
    ∀ i ∈ is, i < wordBound := by
  induction h with
  | none => exact nofun
  | more h hs ih =>
      intro i hi
      rcases List.mem_cons.1 hi with rfl | hi
      · exact h.bound
      · exact ih i hi

/-- The characters in brackets are those of a numeral and blanks. -/
theorem mem_inside {i : Nat} {inside : List Char} (h : Numeral (trim inside) i) {c : Char}
    (hc : c ∈ inside) : c = '+' ∨ c.isDigit = true ∨ isBlank c = true := by
  rcases mem_trim_or_isBlank hc with htrim | hblank
  · rcases h.mem htrim with hplus | hdigit
    · exact .inl hplus
    · exact .inr (.inl hdigit)
  · exact .inr (.inr hblank)

theorem Brackets.mem {is : List Nat} {s : List Char} (h : Brackets is s) {c : Char} (hc : c ∈ s) :
    c ∈ ['[', ']', '+'] ∨ c.isDigit = true ∨ isBlank c = true := by
  induction h with
  | none => cases hc
  | more h hs ih =>
      rw [List.mem_cons, List.mem_append, List.mem_cons] at hc
      rcases hc with rfl | hc | rfl | hc
      · exact .inl (by decide)
      · rcases mem_inside h hc with rfl | hc
        · exact .inl (by decide)
        · exact .inr hc
      · exact .inl (by decide)
      · exact ih hc

theorem Brackets.not_mem_point {is : List Nat} {s : List Char} (h : Brackets is s) : '.' ∉ s := by
  intro hpoint
  rcases h.mem hpoint with h | h | h
  · revert h
    decide
  · cases h
  · cases h

/-- A text is read as indices exactly when they are spelled so. -/
theorem indices?_eq_some_iff {s : List Char} {is : List Nat} :
    indices? s = some is ↔ Brackets is s := by
  constructor
  · intro h
    fun_induction indices? s generalizing is with
    | case1 =>
        cases h
        exact .none
    | case2 r inside after hcut _ ih =>
        obtain ⟨i, hi, h⟩ := Option.bind_eq_some_iff.1 h
        obtain ⟨others, hothers, h⟩ := Option.bind_eq_some_iff.1 h
        cases h
        obtain ⟨rfl, -⟩ := cut_singleton_eq_some_iff.1 hcut
        exact .more (word?_eq_some_iff.1 hi) (ih hothers)
    | case3 => cases h
    | case4 => cases h
  · intro h
    induction h with
    | none => rw [indices?]
    | @more i is inside s h hs ih =>
        have hclosing : ']' ∉ inside := by
          intro hmem
          rcases mem_inside h hmem with e | e | e
          · revert e
            decide
          · cases e
          · cases e
        have hcut : cut [']'] (inside ++ ']' :: s) = some (inside, s) :=
          cut_singleton_eq_some_iff.2 ⟨rfl, hclosing⟩
        rw [indices?]
        split
        · next found after hfound =>
            cases hcut.symm.trans hfound
            rw [word?_eq_some_iff.2 h, ih]
            rfl
        · next hnone => cases hcut.symm.trans hnone

/-! ### Parts -/

theorem ne_of_isKeyChar {c d : Char} (hc : isKeyChar c = true) (hd : isKeyChar d = false) :
    c ≠ d := by
  rintro rfl
  rw [hc] at hd
  cases hd

theorem Brackets.takeWhile_eq_nil {is : List Nat} {s : List Char} (h : Brackets is s) :
    s.takeWhile (· != '[') = [] := by
  cases h with
  | none => rfl
  | more => rfl

/-- A part is cut before its first bracket. -/
theorem Part.Spelled.takeWhile_dropWhile {part : Part} {s : List Char} (h : part.Spelled s) :
    s.takeWhile (· != '[') = part.key ∧ Brackets part.indices (s.dropWhile (· != '[')) := by
  cases h with
  | @intro s h =>
      have hkey : ∀ c ∈ part.key, (c != '[') = true := fun c hc =>
        bne_iff_ne.2 (ne_of_isKeyChar (part.keyed c hc) (by decide +kernel))
      have hnil := h.takeWhile_eq_nil
      have hdrop : s.dropWhile (· != '[') = s := by
        simpa [hnil] using List.takeWhile_append_dropWhile (p := (· != '[')) (l := s)
      rw [List.takeWhile_append_of_pos hkey, List.dropWhile_append_of_pos hkey, hnil, hdrop,
        List.append_nil]
      exact ⟨rfl, h⟩

theorem Part.Spelled.not_mem_point {part : Part} {s : List Char} (h : part.Spelled s) :
    '.' ∉ s := by
  cases h with
  | intro h =>
      intro hpoint
      rcases List.mem_append.1 hpoint with hkey | hbrackets
      · exact ne_of_isKeyChar (part.keyed '.' hkey) (by decide +kernel) rfl
      · exact h.not_mem_point hbrackets

/-- A text is read as the steps of the part that it spells. -/
theorem part?_eq_some_iff {s : List Char} {steps : List Step} :
    part? s = some steps ↔ ∃ part : Part, part.Spelled s ∧ part.steps = steps := by
  constructor
  · intro h
    rw [part?] at h
    split at h
    · cases h
    · next hkey =>
        obtain ⟨is, his, rfl⟩ := Option.map_eq_some_iff.1 h
        have hbrackets := indices?_eq_some_iff.1 his
        rw [Bool.not_eq_true, Bool.or_eq_false_iff, Bool.not_eq_false',
          List.isEmpty_eq_false_iff, List.all_eq_true] at hkey
        let part : Part := ⟨s.takeWhile (· != '['), is, hkey.1, hkey.2, hbrackets.bounded⟩
        have hspelled : part.Spelled (s.takeWhile (· != '[') ++ s.dropWhile (· != '[')) :=
          .intro hbrackets
        rw [List.takeWhile_append_dropWhile] at hspelled
        exact ⟨part, hspelled, rfl⟩
  · rintro ⟨part, h, rfl⟩
    obtain ⟨hkey, hbrackets⟩ := h.takeWhile_dropWhile
    have hvalid : ¬ (part.key.isEmpty || !part.key.all isKeyChar) = true := by
      rw [Bool.not_eq_true, Bool.or_eq_false_iff, Bool.not_eq_false', List.isEmpty_eq_false_iff,
        List.all_eq_true]
      exact ⟨part.inhabited, part.keyed⟩
    rw [part?, hkey, if_neg hvalid, indices?_eq_some_iff.2 hbrackets]
    rfl

/-! ### Paths -/

/-- The parts between the points of a text are read one by one. -/
theorem mapM_part?_eq_some_iff {s : List Char} {found : List (List Step)} :
    (splitOn '.' s).mapM part? = some found ↔
      ∃ parts, Spelled parts s ∧ parts.map Part.steps = found := by
  constructor
  · intro h
    induction s using parts_induction '.' generalizing found with
    | single s hs =>
        rw [splitOn_of_not_mem hs, List.mapM_cons, List.mapM_nil] at h
        obtain ⟨steps, hsteps, h⟩ := Option.bind_eq_some_iff.1 h
        cases h
        obtain ⟨part, hpart, rfl⟩ := part?_eq_some_iff.1 hsteps
        exact ⟨[part], .single hpart, rfl⟩
    | several s t hs ih =>
        rw [splitOn_append hs, List.mapM_cons] at h
        obtain ⟨steps, hsteps, h⟩ := Option.bind_eq_some_iff.1 h
        obtain ⟨others, hothers, h⟩ := Option.bind_eq_some_iff.1 h
        cases h
        obtain ⟨part, hpart, rfl⟩ := part?_eq_some_iff.1 hsteps
        obtain ⟨parts, hparts, rfl⟩ := ih hothers
        exact ⟨part :: parts, .several hpart hparts, rfl⟩
  · rintro ⟨parts, h, rfl⟩
    induction h with
    | single h =>
        rw [splitOn_of_not_mem h.not_mem_point, List.mapM_cons,
          part?_eq_some_iff.2 ⟨_, h, rfl⟩]
        rfl
    | several h ht ih =>
        rw [splitOn_append h.not_mem_point, List.mapM_cons, part?_eq_some_iff.2 ⟨_, h, rfl⟩, ih]
        rfl

/-- A text is read as a path exactly when it is spelled as one, blanks at its ends apart. -/
theorem parse?_eq_some_iff {p : List Char} {steps : List Step} :
    parse? p = some steps ↔
      ∃ parts, Spelled parts (trim p) ∧ parts.flatMap Part.steps = steps := by
  rw [parse?, Option.map_eq_some_iff]
  constructor
  · rintro ⟨found, hfound, rfl⟩
    obtain ⟨parts, hparts, rfl⟩ := mapM_part?_eq_some_iff.1 hfound
    exact ⟨parts, hparts, List.flatMap_def⟩
  · rintro ⟨parts, hparts, rfl⟩
    exact ⟨_, mapM_part?_eq_some_iff.2 ⟨parts, hparts, rfl⟩, List.flatMap_def.symm⟩

example : parse? "a[0]b]".toList = none ∧ parse? "a[0.5]".toList = none ∧
    parse? "a.[0]".toList = none := by decide +kernel

/-- The characters of a path that are neither key characters nor blanks. -/
def marks : List Char :=
  ['.', '[', ']', '+']

/-- The characters of a path are key characters, marks and blanks. -/
theorem Spelled.mem {parts : List Part} {s : List Char} (h : Spelled parts s) {c : Char}
    (hc : c ∈ s) : isKeyChar c = true ∨ c ∈ marks ∨ isBlank c = true := by
  have hpart : ∀ (part : Part) (t : List Char), part.Spelled t → c ∈ t →
      isKeyChar c = true ∨ c ∈ marks ∨ isBlank c = true := by
    intro part t ht hc
    cases ht with
    | intro hbrackets =>
        rcases List.mem_append.1 hc with hc | hc
        · exact .inl (part.keyed c hc)
        · rcases hbrackets.mem hc with hmark | hdigit | hblank
          · exact .inr (.inl (.tail '.' hmark))
          · exact .inl (isKeyChar_of_isDigit hdigit)
          · exact .inr (.inr hblank)
  induction h with
  | single h => exact hpart _ _ h hc
  | several h ht ih =>
      rw [List.mem_append, List.mem_cons] at hc
      rcases hc with hc | rfl | hc
      · exact hpart _ _ h hc
      · exact .inr (.inl (.head _))
      · exact ih hc

/-- The key of the first part stands at the front of a path. -/
theorem Spelled.exists_key_append {parts : List Part} {s : List Char} (h : Spelled parts s) :
    ∃ part others rest, parts = part :: others ∧ s = part.key ++ rest := by
  cases h with
  | single h =>
      cases h with
      | intro => exact ⟨_, [], _, rfl, rfl⟩
  | several h =>
      cases h with
      | intro => exact ⟨_, _, _, rfl, List.append_assoc _ _ _⟩

/-- A path starts with a key character. -/
theorem Spelled.exists_eq_cons {parts : List Part} {s : List Char} (h : Spelled parts s) :
    ∃ c rest, s = c :: rest ∧ isKeyChar c = true := by
  obtain ⟨part, others, rest, -, rfl⟩ := h.exists_key_append
  obtain ⟨c, key, hkey⟩ := List.exists_cons_of_ne_nil part.inhabited
  exact ⟨c, key ++ rest, by rw [hkey, List.cons_append], part.keyed c (hkey ▸ .head key)⟩

/-- The first step of a path is to a name that occurs in it. -/
theorem exists_of_parse? {p : List Char} {steps : List Step} (h : parse? p = some steps) :
    ∃ name rest, steps = .key name :: rest ∧ name.toList <:+: p := by
  obtain ⟨parts, hparts, rfl⟩ := parse?_eq_some_iff.1 h
  obtain ⟨part, others, rest, rfl, hkey⟩ := hparts.exists_key_append
  refine ⟨String.ofList part.key, _, rfl, ?_⟩
  rw [String.toList_ofList]
  have hfront : part.key <+: trim p := ⟨rest, hkey.symm⟩
  exact hfront.isInfix.trans (isInfix_trim p)

/-! ### One reading -/

/-- Indices end where the next key stands. -/
theorem indices_injective {is js : List Nat} {parts others : List Part}
    (h : is.map Step.index ++ parts.flatMap Part.steps =
      js.map Step.index ++ others.flatMap Part.steps) :
    is = js ∧ parts.flatMap Part.steps = others.flatMap Part.steps := by
  have hkey : ∀ (i : Nat) (rest : List Step) (ps : List Part),
      .index i :: rest ≠ ps.flatMap Part.steps := by
    intro i rest ps
    cases ps with
    | nil => exact List.cons_ne_nil _ _
    | cons part ps =>
        intro h
        rw [List.flatMap_cons, Part.steps, List.cons_append] at h
        cases h
  induction is generalizing js with
  | nil =>
      cases js with
      | nil => exact ⟨rfl, h⟩
      | cons j js => exact absurd h.symm (hkey j _ parts)
  | cons i is ih =>
      cases js with
      | nil => exact absurd h (hkey i _ others)
      | cons j js =>
          simp only [List.map_cons, List.cons_append, List.cons.injEq, Step.index.injEq] at h
          obtain ⟨rfl, hrest⟩ := ih h.2
          exact ⟨by rw [h.1], hrest⟩

/-- Parts with the same steps are the same. -/
theorem steps_injective {parts others : List Part}
    (h : parts.flatMap Part.steps = others.flatMap Part.steps) : parts = others := by
  induction parts generalizing others with
  | nil =>
      cases others with
      | nil => rfl
      | cons other others => cases h
  | cons part parts ih =>
      cases others with
      | nil => cases h
      | cons other others =>
          simp only [List.flatMap_cons, Part.steps, List.cons_append, List.cons.injEq,
            Step.key.injEq, String.ofList_inj] at h
          obtain ⟨hindices, hrest⟩ := indices_injective h.2
          rw [Part.ext h.1 hindices, ih hrest]

/-- A text spells one list of parts. -/
theorem Spelled.unique {parts others : List Part} {s : List Char} (h : Spelled parts s)
    (ho : Spelled others s) : parts = others := by
  have hfound := mapM_part?_eq_some_iff.2 ⟨parts, h, rfl⟩
  rw [mapM_part?_eq_some_iff.2 ⟨others, ho, rfl⟩, Option.some.injEq] at hfound
  exact steps_injective (by rw [List.flatMap_def, List.flatMap_def, hfound])

/-! ### The canonical spelling -/

/-- The text of an index. -/
def bracket (i : Nat) : List Char :=
  '[' :: (digits i ++ [']'])

/-- The text of a part. -/
def Part.spelling (part : Part) : List Char :=
  part.key ++ part.indices.flatMap bracket

/-- The text of parts, without blanks and signs. -/
def spelling (parts : List Part) : List Char :=
  ['.'].intercalate (parts.map Part.spelling)

theorem isBlank_of_mem_digits {n : Nat} {c : Char} (h : c ∈ digits n) : isBlank c = false :=
  isBlank_of_isKeyChar (isKeyChar_of_isDigit (isDigit_of_mem_digits h))

theorem isBlank_of_mem_bracket {i : Nat} {c : Char} (h : c ∈ bracket i) : isBlank c = false := by
  simp only [bracket, List.mem_cons, List.mem_append, List.not_mem_nil, or_false] at h
  rcases h with rfl | h | rfl
  · rfl
  · exact isBlank_of_mem_digits h
  · rfl

theorem Part.isBlank_of_mem_spelling {part : Part} {c : Char} (h : c ∈ part.spelling) :
    isBlank c = false := by
  rcases List.mem_append.1 h with hkey | hindices
  · exact isBlank_of_isKeyChar (part.keyed c hkey)
  · obtain ⟨i, -, hi⟩ := List.mem_flatMap.1 hindices
    exact isBlank_of_mem_bracket hi

theorem spelling_cons (part next : Part) (parts : List Part) :
    spelling (part :: next :: parts) = part.spelling ++ '.' :: spelling (next :: parts) := by
  rw [spelling, spelling, List.map_cons, List.map_cons, List.intercalate_cons_cons]
  simp

theorem isBlank_of_mem_spelling {part : Part} {parts : List Part} {c : Char}
    (h : c ∈ spelling (part :: parts)) : isBlank c = false := by
  induction parts generalizing part with
  | nil =>
      rw [spelling, List.map_singleton, List.intercalate_singleton] at h
      exact Part.isBlank_of_mem_spelling h
  | cons next parts ih =>
      rw [spelling_cons, List.mem_append, List.mem_cons] at h
      rcases h with h | rfl | h
      · exact Part.isBlank_of_mem_spelling h
      · rfl
      · exact ih h

theorem brackets_flatMap {is : List Nat} (h : ∀ i ∈ is, i < wordBound) :
    Brackets is (is.flatMap bracket) := by
  induction is with
  | nil => exact .none
  | cons i is ih =>
      have hinside : Numeral (trim (digits i)) i := by
        rw [trim_eq_self fun c hc => isBlank_of_mem_digits hc]
        exact numeral_digits (h i (.head is))
      have hrest := ih fun j hj => h j (.tail i hj)
      simpa [bracket] using Brackets.more hinside hrest

theorem Part.spelled_spelling (part : Part) : part.Spelled part.spelling :=
  .intro (brackets_flatMap part.bounded)

theorem spelled_spelling (part : Part) (parts : List Part) :
    Spelled (part :: parts) (spelling (part :: parts)) := by
  induction parts generalizing part with
  | nil =>
      rw [spelling, List.map_singleton, List.intercalate_singleton]
      exact .single part.spelled_spelling
  | cons next parts ih =>
      rw [spelling_cons]
      exact .several part.spelled_spelling (ih next)

theorem parse?_spelling (part : Part) (parts : List Part) :
    parse? (spelling (part :: parts)) = some ((part :: parts).flatMap Part.steps) := by
  refine parse?_eq_some_iff.2 ⟨part :: parts, ?_, rfl⟩
  rw [trim_eq_self fun c hc => isBlank_of_mem_spelling hc]
  exact spelled_spelling part parts

/-- A text is read as a path exactly when its trimmed form spells parts, the parts are told by the
text, and the steps are the key of each part with its indices behind it; the canonical spelling of
any parts is read as just their steps. -/
theorem path_language :
    (∀ (p : List Char) (steps : List Step),
        parse? p = some steps ↔
          ∃ parts, Spelled parts (trim p) ∧ parts.flatMap Part.steps = steps) ∧
      (∀ (s : List Char) (parts others : List Part),
        Spelled parts s → Spelled others s → parts = others) ∧
      ∀ (part : Part) (parts : List Part),
        parse? (spelling (part :: parts)) = some ((part :: parts).flatMap Part.steps) :=
  ⟨fun _ _ => parse?_eq_some_iff, fun _ _ _ => Spelled.unique, parse?_spelling⟩

/-- A sign, a zero in front and blanks do not count in brackets, and blanks do not count around a
path. -/
theorem path_language_blanks :
    ∃ parts, (∀ others, Spelled others (trim " a[ +01 ].b ".toList) ↔ others = parts) ∧
      parts.flatMap Part.steps = [.key "a", .index 1, .key "b"] := by
  have hread : parse? " a[ +01 ].b ".toList = some [.key "a", .index 1, .key "b"] := by
    decide +kernel
  obtain ⟨parts, hparts, hsteps⟩ := (path_language.1 _ _).1 hread
  refine ⟨parts, fun others => ⟨fun ho => path_language.2.1 _ others parts ho hparts, ?_⟩, hsteps⟩
  rintro rfl
  exact hparts

end ViewTree.Path
