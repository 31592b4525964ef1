import ViewTree.Number.Shortest
import ViewTree.Text.Numeral

/-!
# Number — laying out the digits

Two ways to write a number share the digits of `Binary.shortest` and differ in a few decisions,
which `Layout` holds.  Each is a value beside the output that uses it: `displayLayout` for text
shown to a reader, `jsonLayout` for JSON.
-/

namespace ViewTree.Number

open ViewTree.Text

/-- How the chosen digits are written. -/
structure Layout where
  /-- Which of two equally near decimals is chosen. -/
  tie : Tie
  /-- The powers of ten of a leading digit that are written without an exponent, the second bound
  excluded; every power is if there are no bounds. -/
  positional : Option (Int × Int)
  /-- Whether an integral value without an exponent ends in a point and a zero. -/
  pointZero : Bool

/-- The digits with a point set among them, before them or after them. -/
def Decimal.positional (d : Decimal) (pointZero : Bool) : List Char :=
  let ds := digits d.coefficient
  let point := (ds.length : Int) + d.exponent
  if 0 ≤ d.exponent then
    ds ++ List.replicate d.exponent.toNat '0' ++ if pointZero then ['.', '0'] else []
  else if 0 < point then ds.take point.toNat ++ '.' :: ds.drop point.toNat
  else '0' :: '.' :: (List.replicate (-point).toNat '0' ++ ds)

/-- One digit, a point if more follow, and a signed exponent. -/
def Decimal.scientific (d : Decimal) : List Char :=
  let ds := digits d.coefficient
  let exponent := (ds.length : Int) + d.exponent - 1
  let sign := if exponent < 0 then '-' else '+'
  ds.take 1 ++ (if ds.length ≤ 1 then [] else '.' :: ds.drop 1)
    ++ 'e' :: sign :: digits exponent.natAbs

/-- A finite value in a layout. -/
def Layout.write (layout : Layout) (b : Binary) : List Char :=
  let sign := if b.negative then ['-'] else []
  if b.significand = 0 then sign ++ (if layout.pointZero then ['0', '.', '0'] else ['0'])
  else
    let d := b.shortest layout.tie
    let leading := ((digits d.coefficient).length : Int) + d.exponent - 1
    let plain := match layout.positional with
      | none => true
      | some (first, last) => first ≤ leading && leading < last
    sign ++ if plain then d.positional layout.pointZero else d.scientific

/-- Text shown to a reader never has an exponent and never ends in a point and a zero. -/
def displayLayout : Layout := ⟨.up, none, false⟩

/-- Numbers in JSON have an exponent below 10^-5 and from 10^16 on, and a point otherwise. -/
def jsonLayout : Layout := ⟨.even, some (-5, 16), true⟩

/-- Integral numbers below this bound are shown as integers. -/
def displayBound : Nat := 1000000000000000

/-- A number as text interpolation shows it: an integral value below 10^15 as that integer, so
that a negative zero loses its sign. -/
def display (x : Float) : String :=
  match decode x with
  | .nan => "NaN"
  | .infinite true => "-Infinity"
  | .infinite false => "Infinity"
  | .finite b =>
    match integerBelow? displayBound x with
    | some n => String.ofList (signedDigits n)
    | none => String.ofList (displayLayout.write b)

/-- A number as a message about a calculation shows it. -/
def lexeme (x : Float) : String :=
  match decode x with
  | .nan => "NaN"
  | .infinite true => "-inf"
  | .infinite false => "inf"
  | .finite b => String.ofList (displayLayout.write b)

end ViewTree.Number
