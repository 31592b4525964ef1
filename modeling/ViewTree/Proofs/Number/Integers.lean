import Mathlib
import ViewTree.Number.Reading

/-!
# Number — integers are kept exactly

An integer below 2^53 has a number of its own, so reading it as a number and asking for the integer
that the number is equal to gives it back.

* `decode_eq`: `decode` reads off the bits what the logical model of numbers takes them for.
* `unpack_pack`, `roundWithAccuracy_shiftLeft`, `round_of_log2_le`: a significand of full length is
  packed and rounded without a loss.
* `integer?_ofNat`: a natural number below 2^53 is the integer of its number.
-/

namespace ViewTree.Number

open Float.Model Float.Model.UnpackedFloat

/-! ### The logical model -/

/-- Whether a sign is a minus. -/
def isMinus : Sign → Bool
  | .negative => true
  | .positive => false

/-- What an unpacked number stands for. -/
def Decoded.ofUnpacked : UnpackedFloat → Decoded
  | .notANumber => .nan
  | .infinity sign => .infinite (isMinus sign)
  | .zero sign => .finite ⟨isMinus sign, 0, -1074⟩
  | .finite sign significand exponent _ => .finite ⟨isMinus sign, significand, exponent⟩

/-- The fraction of the bits as the logical model takes it. -/
theorem toNat_unpackMantissa (bits : UInt64) :
    (@unpackMantissa Format.binary64 bits.toBitVec).toNat = bits.toNat % leadingOne := by
  simp [unpackMantissa_def, BitVec.extractLsb', leadingOne]

/-- The sign of the bits as the logical model takes it. -/
theorem isMinus_unpackSign (bits : UInt64) :
    isMinus (Sign.ofBitVec (@unpackSign Format.binary64 bits.toBitVec)) =
      decide (signBit ≤ bits.toNat) := by
  have hlt : bits.toNat < UInt64.size := bits.toNat_lt
  have hsign : (@unpackSign Format.binary64 bits.toBitVec).toNat = (bits.toNat >>> 63) % 2 := by
    simp [unpackSign_def, BitVec.extractLsb']
  have hzero : @unpackSign Format.binary64 bits.toBitVec = 0#1 ↔ ¬ signBit ≤ bits.toNat := by
    rw [← BitVec.toNat_inj, hsign, Nat.shiftRight_eq_div_pow]
    simp only [signBit, UInt64.size, Nat.reduceShiftLeft, Nat.reducePow, BitVec.toNat_ofNat,
      Nat.zero_mod] at hlt ⊢
    omega
  rw [Sign.ofBitVec]
  by_cases h : signBit ≤ bits.toNat
  · rw [if_neg fun hs => hzero.1 hs h, decide_eq_true h]
    rfl
  · rw [if_pos (hzero.2 h), decide_eq_false h]
    rfl

/-- The implied leading one in front of a fraction. -/
theorem toNat_one_append (fraction : BitVec 52) :
    (1#1 ++ fraction).toNat = leadingOne + fraction.toNat := by
  rw [BitVec.toNat_append]
  exact (Nat.two_pow_add_eq_or_of_lt fraction.isLt 1).symm

/-- What is read off the bits of a number is what the logical model takes it for. -/
theorem decode_eq (x : Float) : decode x = .ofUnpacked x.toModel.unpack := by
  have hmodel : x.toModel.unpack = UnpackedFloat.unpack Format.binary64 x.toBits.toBitVec := rfl
  have hones : (-1#11 : BitVec 11).toNat = 2047 := rfl
  have hbias : (Format.binary64.exponentBias : Int) + (52 : Nat) = 1075 := rfl
  rw [hmodel, decode, ← isMinus_unpackSign]
  delta UnpackedFloat.unpack
  simp only [← BitVec.toNat_inj, toNat_unpackExponent, toNat_unpackMantissa, toNat_one_append,
    hones, hbias, BitVec.toNat_ofNat, Nat.zero_mod]
  -- both sides go through the same cases of the two fields
  split
  · split <;> rfl
  · split
    · next he =>
        split
        · next hf => rw [hf]; rfl
        · rw [he]; rfl
    · rfl

/-! ### Packing and rounding without a loss -/

theorem targetExponent_eq (total : Int) :
    Format.binary64.targetExponent total = max (total - 53) (-1074) := rfl

section Pack

variable {sign : Sign} {significand : Nat} {exponent : Int} {hpos : 0 < significand}
  (hlog : significand.log2 = 52) (hlow : -1074 ≤ exponent) (hhigh : exponent ≤ 971)

include hlog hhigh

/-- A number with a significand of full length is packed into its exponent and its fraction. -/
theorem unpack_pack_components :
    (pack (.finite sign significand exponent hpos)).unpack =
      UnpackedFloat.unpack Format.binary64
        (packComponents Format.binary64 sign (BitVec.ofNat 11 (exponent + 1075).toNat)
          (BitVec.ofNat 52 significand)) := by
  have hbias : (exponent + Format.binary64.exponentBias + (52 : Nat)).toNat =
      (exponent + 1075).toNat := by
    change (exponent + 1023 + 52).toNat = (exponent + 1075).toNat
    omega
  have hlength : 52 + 1 = Format.binary64.mantissaBits := rfl
  change UnpackedFloat.unpack Format.binary64 (UnpackedFloat.pack Format.binary64 _) = _
  simp only [UnpackedFloat.pack, hlog, hbias]
  split
  · next h =>
      have hlarge : 2048 ≤ (exponent + 1075).toNat + 1 := h
      omega
  · rfl

include hlow

/-- A number with a significand of full length is unpacked from what it is packed into. -/
theorem unpack_pack :
    (pack (.finite sign significand exponent hpos)).unpack =
      .finite sign significand exponent hpos := by
  let biased := BitVec.ofNat 11 (exponent + 1075).toNat
  let fraction := BitVec.ofNat 52 significand
  have hbiased : biased.toNat = (exponent + 1075).toNat := by
    rw [BitVec.toNat_ofNat]
    omega
  have hsignificand : (1#1 ++ fraction).toNat = significand := by
    obtain ⟨hlow, hhigh⟩ := (Nat.log2_eq_iff (Nat.ne_of_gt hpos)).1 hlog
    rw [toNat_one_append, BitVec.toNat_ofNat, leadingOne]
    omega
  have hexponent : ((exponent + 1075).toNat : Int) - (Format.binary64.exponentBias + (52 : Nat)) =
      exponent := by
    change ((exponent + 1075).toNat : Int) - 1075 = exponent
    omega
  have hfinite : biased ≠ -1#11 := by
    intro h
    have hones : biased.toNat = 2047 := congrArg BitVec.toNat h
    omega
  have hnormal : biased ≠ 0#11 := by
    intro h
    have hzero : biased.toNat = 0 := congrArg BitVec.toNat h
    omega
  have hpacked : (pack (.finite sign significand exponent hpos)).unpack =
      UnpackedFloat.unpack Format.binary64
        (packComponents Format.binary64 sign biased fraction) :=
    unpack_pack_components hlog hhigh
  rw [hpacked]
  simp only [UnpackedFloat.unpack, unpackMantissa_packComponents, unpackExponent_packComponents,
    unpackSign_packComponents, Sign.ofBitVec_toBitVec, if_neg hfinite, if_neg hnormal, hbiased,
    hsignificand, hexponent]

end Pack

theorem ofMantissaAndAccuracy_shiftRight (significand shift : Nat) :
    ExtendedMantissa.ofMantissaAndAccuracy (significand <<< shift) .exact >>> shift =
      ExtendedMantissa.ofMantissaAndAccuracy significand .exact := by
  induction shift generalizing significand with
  | zero => rfl
  | succ shift ih =>
      change ExtendedMantissa.shiftRightOne
        (ExtendedMantissa.ofMantissaAndAccuracy (significand <<< (shift + 1)) .exact >>> shift) = _
      rw [Nat.shiftLeft_succ_inside, ih]
      simp [ExtendedMantissa.shiftRightOne, ExtendedMantissa.ofMantissaAndAccuracy]

theorem log2_shiftLeft {n : Nat} (hn : n ≠ 0) (shift : Nat) :
    (n <<< shift).log2 = n.log2 + shift := by
  induction shift with
  | zero => rfl
  | succ shift ih =>
      have h : n <<< shift ≠ 0 := by
        rw [Nat.shiftLeft_eq]
        exact Nat.mul_ne_zero hn (Nat.ne_of_gt (Nat.two_pow_pos shift))
      rw [Nat.shiftLeft_succ, Nat.log2_two_mul h, ih, Nat.add_assoc]

/-- A number that is no longer is shifted to full length. -/
theorem log2_shiftLeft_full {n : Nat} (hn : 0 < n) (hlog : n.log2 ≤ 52) :
    (n <<< (52 - n.log2)).log2 = 52 := by
  rw [log2_shiftLeft (Nat.ne_of_gt hn)]
  omega

/-- Bits below a significand of full length that are all zero are dropped. -/
theorem roundWithAccuracy_shiftLeft (sign : Sign) {significand : Nat} {exponent : Int}
    (hpos : 0 < significand) (hlog : significand.log2 = 52) (hlow : -1074 ≤ exponent)
    (shift : Nat) :
    roundWithAccuracy Format.binary64 sign (significand <<< shift) (exponent - shift) .exact =
      .finite sign significand exponent hpos := by
  -- the first shift drops the bits, the second one has nothing to do
  have hshift (k : Nat) : shiftToTargetExponent Format.binary64 (significand <<< k) (exponent - k)
      .exact = (.ofMantissaAndAccuracy significand .exact, exponent) := by
    have htarget : Format.binary64.targetExponent
        (totalExponent (significand <<< k) (exponent - k)) = exponent := by
      rw [targetExponent_eq, totalExponent, log2_shiftLeft (Nat.ne_of_gt hpos), hlog]
      omega
    have hamount : (exponent - (exponent - k)).toNat = k := by omega
    simp only [shiftToTargetExponent, htarget, shiftToExponent, hamount,
      ofMantissaAndAccuracy_shiftRight]
    rw [Int.sub_add_cancel]
  have hagain : shiftToTargetExponent Format.binary64 significand exponent .exact =
      (.ofMantissaAndAccuracy significand .exact, exponent) := by
    simpa using hshift 0
  have hrounded : (ExtendedMantissa.ofMantissaAndAccuracy significand .exact).roundedMantissa =
      significand := rfl
  simp only [roundWithAccuracy, hshift shift, hrounded, hagain]
  exact dif_neg (Nat.ne_of_gt hpos)

/-- An integer of at most full length is rounded to a significand of full length. -/
theorem round_of_log2_le (sign : Sign) {n : Nat} (hn : 0 < n) (hlog : n.log2 ≤ 52) :
    ∃ hpos, UnpackedFloat.round Format.binary64 sign n 0 =
      .finite sign (n <<< (52 - n.log2)) (-(52 - n.log2 : Nat)) hpos := by
  have hfull := log2_shiftLeft_full hn hlog
  have hpos : 0 < n <<< (52 - n.log2) := by
    rw [Nat.shiftLeft_eq]
    exact Nat.mul_pos hn (Nat.two_pow_pos _)
  have htarget : Format.binary64.targetExponent (totalExponent n 0) = -(52 - n.log2 : Nat) := by
    rw [targetExponent_eq, totalExponent]
    omega
  have hlow : -1074 ≤ -((52 - n.log2 : Nat) : Int) := by omega
  have hexact := roundWithAccuracy_shiftLeft sign hpos hfull hlow 0
  refine ⟨hpos, ?_⟩
  have hamount : (0 - -((52 - n.log2 : Nat) : Int)).toNat = 52 - n.log2 := by omega
  simp only [UnpackedFloat.round, htarget, decreaseExponent, hamount]
  simpa using hexact

/-! ### Integers -/

theorem log2_le_of_lt {n : Nat} (hn : 0 < n) (hbound : n < 2 * leadingOne) : n.log2 ≤ 52 :=
  Nat.le_of_lt_succ ((Nat.log2_lt (Nat.ne_of_gt hn)).2 hbound)

/-- The value of a natural number below 2^53, with a significand of full length. -/
theorem unpack_toFloat {n : Nat} (hn : 0 < n) (hbound : n < 2 * leadingOne) :
    ∃ hpos, n.toUInt64.toFloat.toModel.unpack =
      .finite .positive (n <<< (52 - n.log2)) (-(52 - n.log2 : Nat)) hpos := by
  have hlog := log2_le_of_lt hn hbound
  obtain ⟨hpos, hround⟩ := round_of_log2_le .positive hn hlog
  have hword : n.toUInt64.toNat = n := UInt64.toNat_ofNat_of_lt' (Nat.lt_trans hbound (by decide))
  have hcompare : compare (n : Int) 0 = .gt := Int.compare_eq_gt.2 (by omega)
  have hmodel : n.toUInt64.toFloat.toModel =
      pack (.finite .positive (n <<< (52 - n.log2)) (-(52 - n.log2 : Nat)) hpos) := by
    change pack (UnpackedFloat.normalize Format.binary64 (n.toUInt64.toNat : Int) 0 .positive) = _
    rw [hword, UnpackedFloat.normalize, hcompare]
    exact congrArg pack hround
  exact ⟨hpos, hmodel ▸ unpack_pack (log2_shiftLeft_full hn hlog) (by omega) (by omega)⟩

theorem ofNat_eq_mul {n : Nat} (hn : 0 < n) (hbound : n < 2 * leadingOne) :
    ofNat n = n.toUInt64.toFloat * Float.ofBits 0x3FF0000000000000 := by
  have hlarge : ¬ (400 : Int) < 0 := by decide
  have hsmall : ¬ (0 : Int) + n.log2 < -400 := by omega
  rw [ofNat, ofDecimal, if_neg (Nat.ne_of_gt hn), if_neg hlarge, if_neg hsmall]
  exact dif_pos ⟨hbound, Nat.zero_le _⟩

/-- The number of a natural number below 2^53 has its value: multiplying by one keeps it. -/
theorem decode_ofNat {n : Nat} (hn : 0 < n) (hbound : n < 2 * leadingOne) :
    decode (ofNat n) = .finite ⟨false, n <<< (52 - n.log2), -(52 - n.log2 : Nat)⟩ := by
  obtain ⟨hpos, hvalue⟩ := unpack_toFloat hn hbound
  have hlog := log2_le_of_lt hn hbound
  have hfull := log2_shiftLeft_full hn hlog
  have hone : (Float.ofBits 0x3FF0000000000000).toModel.unpack =
      .finite .positive leadingOne (-52) (by decide) := rfl
  have hproduct : UnpackedFloat.mul Format.binary64 n.toUInt64.toFloat.toModel.unpack
      (Float.ofBits 0x3FF0000000000000).toModel.unpack =
        .finite .positive (n <<< (52 - n.log2)) (-(52 - n.log2 : Nat)) hpos := by
    rw [hvalue, hone, UnpackedFloat.mul, leadingOne, Nat.one_shiftLeft, ← Nat.shiftLeft_eq]
    exact roundWithAccuracy_shiftLeft .positive hpos hfull (by omega) 52
  have hmodel : (ofNat n).toModel =
      pack (.finite .positive (n <<< (52 - n.log2)) (-(52 - n.log2 : Nat)) hpos) := by
    rw [ofNat_eq_mul hn hbound, ← hproduct]
    rfl
  rw [decode_eq, hmodel, unpack_pack hfull (by omega) (by omega)]
  rfl

theorem integer?_shiftLeft (n shift : Nat) :
    (⟨false, n <<< shift, -(shift : Int)⟩ : Binary).integer? = some n := by
  have hunit : 0 < 1 <<< shift := by
    rw [Nat.one_shiftLeft]
    exact Nat.two_pow_pos shift
  have hscaled : n <<< shift = n * 1 <<< shift := by rw [Nat.shiftLeft_eq, Nat.one_shiftLeft]
  cases shift with
  | zero => rfl
  | succ shift =>
      have hnegative : ¬ 0 ≤ -((shift + 1 : Nat) : Int) := by omega
      have hamount : (-(-((shift + 1 : Nat) : Int))).toNat = shift + 1 := by omega
      simp only [Binary.integer?, if_neg hnegative, hamount, hscaled, Nat.mul_mod_left, if_true,
        Nat.mul_div_cancel n hunit]
      rfl

/-- **A natural number below 2^53 is the integer of its number.** -/
theorem integer?_ofNat {n : Nat} (hbound : n < 2 * leadingOne) : integer? (ofNat n) = some n := by
  cases n with
  | zero => rfl
  | succ n =>
      rw [integer?, decode_ofNat (Nat.succ_pos n) hbound]
      exact integer?_shiftLeft _ _

end ViewTree.Number
