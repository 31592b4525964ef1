import ViewTree.Text.Numeral

/-!
# Text — numerals

The digits of a number denote it (`digitsValue_digits`) and have no leading zero (`digits_leads`).
A text is read as a number below 2^64 exactly when it is a `Numeral` of it, and the digits of such
a number are one (`numeral_digits`).
-/

namespace ViewTree.Text

/-! ### Digits -/

theorem digitsValue_digits (n : Nat) : digitsValue 0 (digits n) = n := by
  have hfold := Nat.ofDigitChars_ten_toDigits (n := n)
  rw [Nat.ofDigitChars_eq_foldl] at hfold
  exact hfold

theorem isDigit_of_mem_digits {n : Nat} {c : Char} (h : c ∈ digits n) : c.isDigit = true :=
  Nat.isDigit_of_mem_toDigits (by decide) (by decide) h

theorem toNat_of_isDigit {c : Char} (h : c.isDigit = true) : 48 ≤ c.toNat ∧ c.toNat ≤ 57 := by
  have hrange := Bool.and_eq_true_iff.1 h
  exact ⟨of_decide_eq_true hrange.1, of_decide_eq_true hrange.2⟩

/-- The digits of a positive number do not start with a zero. -/
theorem exists_digits_eq_cons {n : Nat} (hn : 0 < n) :
    ∃ d ds, digits n = d :: ds ∧ d ≠ '0' := by
  induction n using Nat.strongRecOn with
  | ind n ih =>
      by_cases hsmall : n < 10
      · refine ⟨Nat.digitChar n, [], Nat.toDigits_of_lt_base hsmall, fun h => ?_⟩
        exact Nat.ne_of_gt hn (Nat.digitChar_eq_zero.1 h)
      · obtain ⟨d, ds, hdigits, hd⟩ := ih (n / 10) (by omega) (by omega)
        have hsplit : digits n = digits (n / 10) ++ digits (n % 10) := by
          have happend := Nat.toDigits_append_toDigits (b := 10) (n := n / 10) (d := n % 10)
            (by decide) (by omega) (Nat.mod_lt n (by decide))
          rw [Nat.div_add_mod] at happend
          exact happend.symm
        exact ⟨d, ds ++ digits (n % 10), by rw [hsplit, hdigits, List.cons_append], hd⟩

/-- The digits of a number are not empty, and start with a zero only if they are no more. -/
theorem digits_leads (n : Nat) :
    ∃ d ds, digits n = d :: ds ∧ (ds = [] ∨ d ≠ '0') := by
  cases n with
  | zero => exact ⟨'0', [], rfl, .inl rfl⟩
  | succ n =>
      obtain ⟨d, ds, hdigits, hd⟩ := exists_digits_eq_cons (Nat.succ_pos n)
      exact ⟨d, ds, hdigits, .inr hd⟩

/-! ### Numerals -/

/-- Digits that denote a number below 2^64. -/
structure Denotes (ds : List Char) (n : Nat) : Prop where
  inhabited : ds ≠ []
  digits : ∀ c ∈ ds, c.isDigit = true
  value : digitsValue 0 ds = n
  bound : n < wordBound

/-- A numeral of a number: digits, behind a plus sign or not. -/
inductive Numeral : List Char → Nat → Prop where
  | unsigned {ds : List Char} {n : Nat} (h : Denotes ds n) : Numeral ds n
  | signed {ds : List Char} {n : Nat} (h : Denotes ds n) : Numeral ('+' :: ds) n

theorem unsignedWord?_eq_some_iff {ds : List Char} {n : Nat} :
    unsignedWord? ds = some n ↔ Denotes ds n := by
  constructor
  · intro h
    simp only [unsignedWord?, Option.ite_none_right_eq_some, Bool.and_eq_true,
      List.all_eq_true, Option.some.injEq] at h
    obtain ⟨⟨hne, hdigits⟩, hbound, rfl⟩ := h
    exact ⟨by simpa using hne, hdigits, rfl, hbound⟩
  · rintro ⟨hne, hdigits, rfl, hbound⟩
    simpa [unsignedWord?, hne, hbound] using hdigits

/-- A text is read as the number of which it is a numeral. -/
theorem word?_eq_some_iff {s : List Char} {n : Nat} : word? s = some n ↔ Numeral s n := by
  constructor
  · intro h
    rw [word?.eq_def] at h
    split at h
    · exact .signed (unsignedWord?_eq_some_iff.1 h)
    · exact .unsigned (unsignedWord?_eq_some_iff.1 h)
  · intro h
    cases h with
    | unsigned h =>
        have hread := unsignedWord?_eq_some_iff.2 h
        rw [word?.eq_def]
        split
        · next ds =>
            have hplus := h.digits '+' (.head ds)
            cases hplus
        · exact hread
    | signed h => exact unsignedWord?_eq_some_iff.2 h

theorem Numeral.mem {s : List Char} {n : Nat} (h : Numeral s n) {c : Char} (hc : c ∈ s) :
    c = '+' ∨ c.isDigit = true := by
  cases h with
  | unsigned h => exact .inr (h.digits c hc)
  | signed h =>
      rcases List.mem_cons.1 hc with rfl | hc
      · exact .inl rfl
      · exact .inr (h.digits c hc)

theorem Numeral.bound {s : List Char} {n : Nat} (h : Numeral s n) : n < wordBound := by
  cases h with
  | unsigned h => exact h.bound
  | signed h => exact h.bound

theorem numeral_digits {n : Nat} (h : n < wordBound) : Numeral (digits n) n := by
  obtain ⟨d, ds, hdigits, -⟩ := digits_leads n
  have hne : digits n ≠ [] := by rw [hdigits]; exact List.cons_ne_nil d ds
  exact .unsigned ⟨hne, fun c => isDigit_of_mem_digits, digitsValue_digits n, h⟩

end ViewTree.Text
