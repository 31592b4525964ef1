/-!
# Number — what the bits of a number stand for

A number is a sign, a significand and a power of two, or an infinity, or no number at all.
`decode` reads the bits, `encode` writes them for the values that fit, and `integer?` is the
integer a number is equal to, if it is one.

* `isFinite_iff_decode`: a number is finite exactly when a finite value is read from its bits.
-/

namespace ViewTree.Number

/-- The finite value `± significand · 2 ^ exponent`. -/
structure Binary where
  /-- Whether the sign is a minus. -/
  negative : Bool
  significand : Nat
  exponent : Int
deriving DecidableEq, Repr

/-- The value a number stands for. -/
inductive Decoded where
  | nan
  | infinite (negative : Bool)
  | finite (value : Binary)
deriving DecidableEq, Repr

/-- The leading one of a significand, 2^52. -/
def leadingOne : Nat := 1 <<< 52

/-- The bit of the sign, 2^63. -/
def signBit : Nat := 1 <<< 63

/-- Reads sign, exponent and fraction; a biased exponent of zero means that no leading one is
implied. -/
def decode (x : Float) : Decoded :=
  let bits := x.toBits.toNat
  let fraction := bits % leadingOne
  let biased := (bits >>> 52) % 2048
  let negative := decide (signBit ≤ bits)
  if biased = 2047 then (if fraction = 0 then .infinite negative else .nan)
  else if biased = 0 then .finite ⟨negative, fraction, -1074⟩
  else .finite ⟨negative, leadingOne + fraction, (biased : Int) - 1075⟩

section Model

open Float.Model Float.Model.UnpackedFloat

/-- The exponent field of the bits as the logical model of numbers takes it. -/
theorem toNat_unpackExponent (bits : UInt64) :
    (@unpackExponent Format.binary64 bits.toBitVec).toNat = (bits.toNat >>> 52) % 2048 := by
  simp [unpackExponent, BitVec.extractLsb, BitVec.extractLsb']

theorem isFinite_iff_decode {x : Float} : x.isFinite = true ↔ ∃ b, decode x = .finite b := by
  let exponent := @unpackExponent Format.binary64 x.toBits.toBitVec
  let mantissa := @unpackMantissa Format.binary64 x.toBits.toBitVec
  have full : exponent = -1#11 ↔ (x.toBits.toNat >>> 52) % 2048 = 2047 := by
    rw [← BitVec.toNat_inj, toNat_unpackExponent]
    rfl
  have model : x.isFinite = (UnpackedFloat.unpack Format.binary64 x.toBits.toBitVec).isFinite := rfl
  rw [model, decode]
  delta UnpackedFloat.unpack
  by_cases h : (x.toBits.toNat >>> 52) % 2048 = 2047
  · rw [if_pos h, if_pos (full.2 h)]
    constructor
    · intro hf
      by_cases hm : mantissa = 0#52
      · rw [if_pos hm] at hf
        cases hf
      · rw [if_neg hm] at hf
        cases hf
    · rintro ⟨b, hb⟩
      split at hb <;> cases hb
  · rw [if_neg h, if_neg fun he => h (full.1 he)]
    constructor
    · intro _
      split <;> exact ⟨_, rfl⟩
    · intro _
      by_cases he : exponent = 0#11
      · rw [if_pos he]
        by_cases hm : mantissa = 0#52
        · rw [dif_pos hm]
          rfl
        · rw [dif_neg hm]
          rfl
      · rw [if_neg he]
        rfl

end Model

/-- The number with a given value.  Exact for a significand below 2^53 and an exponent from -1074
up to 971. -/
def encode (b : Binary) : Float :=
  let sign : Nat := if b.negative then signBit else 0
  if b.significand = 0 then Float.ofBits (UInt64.ofNat sign)
  else
    -- the shift that brings the leading one to its place, unless the exponent ends first
    let shift := min (52 - b.significand.log2) (b.exponent + 1074).toNat
    let significand := b.significand <<< shift
    let biased := (b.exponent - shift + 1075).toNat
    if significand < leadingOne then Float.ofBits (UInt64.ofNat (sign + significand))
    else Float.ofBits (UInt64.ofNat (sign + biased <<< 52 + (significand - leadingOne)))

/-- The integer that a finite value is equal to, if there is one; both zeros are 0. -/
def Binary.integer? (b : Binary) : Option Int :=
  let magnitude? : Option Nat :=
    if 0 ≤ b.exponent then some (b.significand <<< b.exponent.toNat)
    else
      let unit := 1 <<< (-b.exponent).toNat
      if b.significand % unit = 0 then some (b.significand / unit) else none
  magnitude?.map fun (n : Nat) => if b.negative then -(n : Int) else n

/-- The integer that a number is equal to, if there is one. -/
def integer? (x : Float) : Option Int :=
  match decode x with
  | .finite b => b.integer?
  | _ => none

/-- The integer that a number is equal to, if there is one and it lies strictly between `-bound`
and `bound`. -/
def integerBelow? (bound : Nat) (x : Float) : Option Int :=
  (integer? x).filter fun n => n.natAbs < bound

/-- Positive infinity. -/
def infinity : Float := Float.ofBits 0x7FF0000000000000

/-- Not a number. -/
def nan : Float := Float.ofBits 0x7FF8000000000000

end ViewTree.Number
