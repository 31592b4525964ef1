import ViewTree.Number.Binary

/-!
# Number — remainder

The remainder of a division whose quotient is rounded toward zero.  It is exact: two finite values
are multiples of a common power of two, and the remainder of the two multiples is below the smaller
significand, so it is a number again.  The sign is that of the dividend, also for a zero.
-/

namespace ViewTree.Number

/-- The remainder of two finite values, the second not zero. -/
def Binary.remainder (a b : Binary) : Binary :=
  let exponent := min a.exponent b.exponent
  let dividend := a.significand <<< (a.exponent - exponent).toNat
  let divisor := b.significand <<< (b.exponent - exponent).toNat
  ⟨a.negative, dividend % divisor, exponent⟩

/-- The remainder of `x` divided by `y`. -/
def remainder (x y : Float) : Float :=
  match decode x, decode y with
  | .finite a, .finite b => if b.significand = 0 then nan else encode (a.remainder b)
  | .finite _, .infinite _ => x
  | _, _ => nan

end ViewTree.Number
