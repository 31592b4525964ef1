import ViewTree.Proofs.Number.Integers

/-!
# Number — which numbers are finite

Packing a value makes it infinite when its exponent is too large for the format, and keeps it finite
otherwise (`isFinite_pack`).  A sign never changes the exponent, and rounding raises it by no more
than the significand is long, so that counted numbers are far from the end of the range.

* `isFinite_iff_fits`: finite numbers are those with an exponent that fits.
* `isFinite_neg`: a number is as finite as its negative.
* `isFinite_ofNat`: natural numbers below 2^64 are finite.
-/

namespace ViewTree.Number

open Float.Model Float.Model.UnpackedFloat

/-! ### Packing -/

/-- An unpacked number that is finite, with an exponent that the format has room for. -/
inductive Fits : UnpackedFloat → Prop where
  | zero (sign : Sign) : Fits (.zero sign)
  | finite {sign : Sign} {significand : Nat} {exponent : Int} {hpos : 0 < significand}
      (h : exponent ≤ 971) : Fits (.finite sign significand exponent hpos)

theorem fits_finite_iff {sign : Sign} {significand : Nat} {exponent : Int}
    {hpos : 0 < significand} : Fits (.finite sign significand exponent hpos) ↔ exponent ≤ 971 := by
  constructor
  · rintro (_ | h)
    exact h
  · exact .finite

theorem Fits.isFinite {u : UnpackedFloat} (h : Fits u) : u.isFinite = true := by
  cases h <;> rfl

/-- A packed number is not finite when all bits of its exponent are set, and has an exponent that
fits otherwise. -/
theorem unpack_cases (bits : BitVec 64) :
    (@unpackExponent Format.binary64 bits = -1#11 ∧
        (UnpackedFloat.unpack Format.binary64 bits).isFinite = false) ∨
      (@unpackExponent Format.binary64 bits ≠ -1#11 ∧
        Fits (UnpackedFloat.unpack Format.binary64 bits)) := by
  have hbias : (Format.binary64.exponentBias : Int) + (52 : Nat) = 1075 := rfl
  have hlt : (@unpackExponent Format.binary64 bits).toNat < 2048 := BitVec.isLt _
  delta UnpackedFloat.unpack
  dsimp only
  split
  · next h =>
      refine .inl ⟨h, ?_⟩
      split <;> rfl
  · next h =>
      have hmax : (@unpackExponent Format.binary64 bits).toNat ≠ 2047 :=
        fun hones => h (BitVec.eq_of_toNat_eq hones)
      refine .inr ⟨h, ?_⟩
      -- a field of zero means the least exponent, any other one its own
      split
      · next hzero =>
          split
          · exact .zero _
          · rw [hzero]
            exact .finite (by decide)
      · exact .finite (by omega)

theorem isFinite_unpack_iff (bits : BitVec 64) :
    (UnpackedFloat.unpack Format.binary64 bits).isFinite = true ↔
      @unpackExponent Format.binary64 bits ≠ -1#11 := by
  rcases unpack_cases bits with ⟨hones, hinfinite⟩ | ⟨hfinite, hfits⟩
  · exact iff_of_false (Bool.eq_false_iff.1 hinfinite) (not_not_intro hones)
  · exact iff_of_true hfits.isFinite hfinite

theorem fits_unpack_iff (bits : BitVec 64) :
    Fits (UnpackedFloat.unpack Format.binary64 bits) ↔
      (UnpackedFloat.unpack Format.binary64 bits).isFinite = true := by
  constructor
  · exact Fits.isFinite
  · intro h
    rcases unpack_cases bits with ⟨-, hinfinite⟩ | ⟨-, hfits⟩
    · rw [hinfinite] at h
      cases h
    · exact hfits

/-- **A finite number is packed into one exactly when its exponent fits.** -/
theorem isFinite_pack (u : UnpackedFloat) : (pack u).isFinite = true ↔ Fits u := by
  have hmodel : (pack u).isFinite =
      (UnpackedFloat.unpack Format.binary64 (UnpackedFloat.pack Format.binary64 u)).isFinite := rfl
  -- a biased exponent with all bits set is one past the last that fits
  have hbias (exponent : Int) :
      (exponent + Format.binary64.exponentBias + (52 : Nat)).toNat + 1 < 2048 ↔ exponent ≤ 971 := by
    change (exponent + 1023 + 52).toNat + 1 < 2048 ↔ exponent ≤ 971
    omega
  rw [hmodel, isFinite_unpack_iff]
  fun_cases UnpackedFloat.pack Format.binary64 u with
  | case1 =>
      rw [packedNaN, unpackExponent_packComponents]
      exact iff_of_false (not_not_intro rfl) nofun
  | case2 sign =>
      rw [packedInfinity, unpackExponent_packComponents]
      exact iff_of_false (not_not_intro rfl) nofun
  | case3 sign =>
      rw [packedZero, unpackExponent_packComponents]
      exact iff_of_true (by decide) (.zero sign)
  | case4 sign significand exponent hpos biased hlarge =>
      rw [packedInfinity, unpackExponent_packComponents]
      refine iff_of_false (not_not_intro rfl) fun h => ?_
      exact Nat.not_le_of_lt ((hbias exponent).2 (fits_finite_iff.1 h)) hlarge
  | case5 sign significand exponent hpos length biased hsmall hnormal =>
      have hlt : biased + 1 < 2048 := Nat.lt_of_not_le hsmall
      rw [unpackExponent_packComponents]
      refine iff_of_true (fun hones => ?_) (.finite ((hbias exponent).1 hlt))
      have hfield : biased % 2048 = 2047 := congrArg BitVec.toNat hones
      omega
  | case6 sign significand exponent hpos length biased hsmall hsubnormal =>
      rw [unpackExponent_packComponents]
      exact iff_of_true (by decide) (.finite ((hbias exponent).1 (Nat.lt_of_not_le hsmall)))

theorem isFinite_iff_fits {x : Float} : x.isFinite = true ↔ Fits x.toModel.unpack :=
  (fits_unpack_iff x.toBits.toBitVec).symm

theorem isFinite_neg (x : Float) : (-x).isFinite = x.isFinite := by
  have hneg : (-x).isFinite = (pack x.toModel.unpack.neg).isFinite := rfl
  rw [Bool.eq_iff_iff, hneg, isFinite_pack, isFinite_iff_fits]
  cases x.toModel.unpack with
  | notANumber => exact Iff.rfl
  | infinity sign => exact iff_of_false nofun nofun
  | zero sign => exact iff_of_true (.zero _) (.zero sign)
  | finite sign significand exponent hpos => exact fits_finite_iff.trans fits_finite_iff.symm

/-! ### Rounding -/

theorem log2_le {n k : Nat} (h : n ≤ 2 ^ k) : n.log2 ≤ k := by
  rw [Nat.log2_eq_log_two]
  exact (Nat.log_mono_right h).trans_eq (Nat.log_pow Nat.one_lt_two k)

theorem mantissa_shiftRight_le (extended : ExtendedMantissa) (shift : Nat) :
    (extended >>> shift).mantissa ≤ extended.mantissa := by
  induction shift with
  | zero => exact Nat.le_refl _
  | succ shift ih => exact (Nat.div_le_self _ 2).trans ih

theorem roundedMantissa_le (extended : ExtendedMantissa) :
    extended.roundedMantissa ≤ extended.mantissa + 1 := by
  obtain ⟨significand, half, below⟩ := extended
  cases half <;> cases below <;>
    simp only [ExtendedMantissa.roundedMantissa, ExtendedMantissa.accuracy,
      Accuracy.roundToNearestEven] <;> omega

/-- A significand is not made longer by dropping the bits that the format has no room for, and the
exponent grows by no more than its length. -/
theorem shiftToTargetExponent_le {significand k : Nat} {exponent : Int}
    (hlength : significand ≤ 2 ^ k) (hlow : -1074 ≤ exponent) :
    ∃ extended raised, shiftToTargetExponent Format.binary64 significand exponent .exact =
        (extended, raised) ∧
      extended.mantissa ≤ significand ∧ exponent ≤ raised ∧ raised ≤ exponent + k := by
  have hlog := log2_le hlength
  have htarget : Format.binary64.targetExponent (totalExponent significand exponent) ≤
      exponent + k := by
    rw [targetExponent_eq, totalExponent]
    omega
  refine ⟨_, _, rfl, mantissa_shiftRight_le _ _, ?_, ?_⟩ <;> omega

/-- Rounding raises the exponent by no more than twice the length of the significand. -/
theorem fits_roundWithAccuracy (sign : Sign) {significand k : Nat} {exponent : Int}
    (hlength : significand < 2 ^ k) (hlow : -1074 ≤ exponent) (hhigh : exponent + 2 * k ≤ 971) :
    Fits (roundWithAccuracy Format.binary64 sign significand exponent .exact) := by
  obtain ⟨extended, raised, hshift, hmantissa, hraised, hfirst⟩ :=
    shiftToTargetExponent_le hlength.le hlow
  have hrounded : extended.roundedMantissa ≤ 2 ^ k := by
    have := roundedMantissa_le extended
    omega
  obtain ⟨final, last, hagain, -, -, hsecond⟩ :=
    shiftToTargetExponent_le hrounded (hlow.trans hraised)
  simp only [roundWithAccuracy, hshift, hagain]
  split
  · exact .zero sign
  · exact .finite (by omega)

/-! ### Counted numbers -/

theorem ofScientific_zero {n : Nat} (hpos : n ≠ 0) :
    UnpackedFloat.ofScientific Format.binary64 n 0 =
      roundWithAccuracy Format.binary64 .positive (n <<< 53) (-53) .exact := by
  have hsmall : ¬ (0 : Int) < -((2 ^ 11 : Int) + n.log2) := by omega
  have hproduct : n <<< Format.binary64.mantissaBits * 10 ^ (0 : Int).toNat = n <<< 53 :=
    Nat.mul_one _
  have hexponent : -(Format.binary64.mantissaBits : Int) + 0 = -53 := rfl
  rw [UnpackedFloat.ofScientific, dif_neg hpos, if_neg (by decide), if_neg hsmall,
    if_pos (Int.le_refl 0), UnpackedFloat.mul, hproduct, hexponent]
  rfl

theorem fits_ofScientific {n : Nat} (hpos : n ≠ 0) (hbound : n < UInt64.size) :
    Fits (UnpackedFloat.ofScientific Format.binary64 n 0) := by
  have hlength : n <<< 53 < 2 ^ 117 := by
    simp only [Nat.shiftLeft_eq, UInt64.size] at hbound ⊢
    omega
  rw [ofScientific_zero hpos]
  exact fits_roundWithAccuracy .positive hlength (by decide) (by decide)

theorem ofNat_eq_ofModel {n : Nat} (hn : 2 * leadingOne ≤ n) :
    ofNat n = .ofModel (.ofScientific n 0) := by
  have hpos : n ≠ 0 := by
    rintro rfl
    cases hn
  have hlarge : ¬ (400 : Int) < 0 := by decide
  have hsmall : ¬ (0 : Int) + n.log2 < -400 := by omega
  rw [ofNat, ofDecimal, if_neg hpos, if_neg hlarge, if_neg hsmall]
  exact dif_neg fun h => Nat.not_lt_of_le hn h.1

/-- **A natural number below 2^64 is finite.** -/
theorem isFinite_ofNat {n : Nat} (hbound : n < UInt64.size) : (ofNat n).isFinite = true := by
  by_cases hshort : n < 2 * leadingOne
  · cases n with
    | zero => rfl
    | succ n => exact isFinite_iff_decode.2 ⟨_, decode_ofNat (Nat.succ_pos n) hshort⟩
  · have hlong := Nat.le_of_not_lt hshort
    have hpos : n ≠ 0 := by
      rintro rfl
      cases hlong
    rw [ofNat_eq_ofModel hlong]
    exact (isFinite_pack _).2 (fits_ofScientific hpos hbound)

end ViewTree.Number
