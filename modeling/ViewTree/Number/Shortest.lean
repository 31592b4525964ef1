import ViewTree.Number.Binary

/-!
# Number — the fewest digits that read back

The decimals that read back to a number are those in its rounding interval: from half way to the
neighbour below to half way to the neighbour above, the two ends included exactly when the
significand is even (`readsBack`).  `shortest` takes the coarsest decimal grid on which one of the
two neighbours of the value lies in that interval, the nearer of the two if both do, and drops the
zeros at its end.  All comparisons are between naturals, so nothing is lost on the way.
-/

namespace ViewTree.Number

/-- The value `coefficient · 10 ^ exponent`. -/
structure Decimal where
  /-- The digits, as one number. -/
  coefficient : Nat
  /-- The power of ten. -/
  exponent : Int
deriving DecidableEq, Repr

/-- Which of two equally near decimals is taken. -/
inductive Tie where
  /-- The one with an even last digit. -/
  | even
  /-- The greater one. -/
  | up
deriving DecidableEq, Repr

/-- Compares `a · 10 ^ i` with `n · 2 ^ j`. -/
def compareScaled (a : Nat) (i : Int) (n : Nat) (j : Int) : Ordering :=
  compare ((a * Nat.pow 10 i.toNat) <<< (-j).toNat) ((n * Nat.pow 10 (-i).toNat) <<< j.toNat)

/-- Whether the gap to the neighbour below is half the gap to the neighbour above. -/
def Binary.narrowBelow (b : Binary) : Bool :=
  b.significand == leadingOne && -1074 < b.exponent

/-- Whether a decimal lies in the rounding interval of a value. -/
def Binary.readsBack (b : Binary) (d : Decimal) : Bool :=
  let low := if b.narrowBelow then 4 * b.significand - 1 else 4 * b.significand - 2
  let high := 4 * b.significand + 2
  let closed := b.significand % 2 == 0
  let atLow := compareScaled d.coefficient d.exponent low (b.exponent - 2)
  let atHigh := compareScaled d.coefficient d.exponent high (b.exponent - 2)
  (atLow == .gt || (closed && atLow == .eq)) && (atHigh == .lt || (closed && atHigh == .eq))

/-- The least power of ten above a value that is not zero.  The logarithm to base two gives it to
within two steps. -/
def Binary.magnitude (b : Binary) : Int :=
  let estimate := ((b.significand.log2 : Int) + b.exponent) * 30103 / 100000
  let above := fun (k : Nat) =>
    compareScaled 1 (estimate + k - 1) b.significand b.exponent == .gt
  estimate - 1 + ((List.range 5).find? above).getD 5

/-- The decimal with `count` digits that reads back, the nearer one if there are two. -/
def Binary.onGrid (b : Binary) (tie : Tie) (count : Nat) : Option Decimal :=
  let step := b.magnitude - count
  let top := (b.significand * Nat.pow 10 (-step).toNat) <<< b.exponent.toNat
  let bottom := Nat.pow 10 step.toNat <<< (-b.exponent).toNat
  let floor := top / bottom
  let below : Decimal := ⟨floor, step⟩
  let above : Decimal := ⟨floor + 1, step⟩
  match b.readsBack below, b.readsBack above with
  | true, true =>
    match compare (2 * top) ((2 * floor + 1) * bottom), tie with
    | .lt, _ => some below
    | .gt, _ => some above
    | .eq, .up => some above
    | .eq, .even => some (if floor % 2 = 0 then below else above)
  | true, false => some below
  | false, true => some above
  | false, false => none

/-- The value itself as a decimal. -/
def Binary.exact (b : Binary) : Decimal :=
  ⟨(b.significand * Nat.pow 5 (-b.exponent).toNat) <<< b.exponent.toNat, min b.exponent 0⟩

/-- The same decimal without the zeros at its end; at most `limit` of them are dropped. -/
def Decimal.stripped (limit : Nat) (d : Decimal) : Decimal :=
  match limit with
  | 0 => d
  | limit + 1 =>
    if d.coefficient % 10 = 0 then stripped limit ⟨d.coefficient / 10, d.exponent + 1⟩ else d

/-- The fewest digits that read back to a value.  Seventeen always do. -/
def Binary.shortest (b : Binary) (tie : Tie) : Decimal :=
  let found := ((List.range 17).findSome? fun n => b.onGrid tie (n + 1)).getD b.exact
  found.stripped (found.coefficient.log2 + 1)

end ViewTree.Number
