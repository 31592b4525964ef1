/-!
# Text — numerals

Unsigned numerals in base ten: how they are written (`digits`) and which of them are read back
(`word?`).  A read numeral may carry a plus sign and leading zeros, and has to stay below 2^64.
-/

namespace ViewTree.Text

/-- The digits of a number in base ten. -/
def digits (n : Nat) : List Char :=
  Nat.toDigits 10 n

/-- An integer with a minus sign where it is negative. -/
def signedDigits (n : Int) : List Char :=
  if n < 0 then '-' :: digits n.natAbs else digits n.natAbs

/-- The value of a digit. -/
def digitValue (c : Char) : Nat :=
  c.toNat - '0'.toNat

/-- The number that digits denote, continued from `start`. -/
def digitsValue (start : Nat) (ds : List Char) : Nat :=
  ds.foldl (fun n c => 10 * n + digitValue c) start

/-- One past the largest index and the largest limit. -/
def wordBound : Nat := UInt64.size

/-- Digits without a sign: at least one, and a number below 2^64. -/
def unsignedWord? (ds : List Char) : Option Nat :=
  if !ds.isEmpty && ds.all Char.isDigit then
    let n := digitsValue 0 ds
    if n < wordBound then some n else none
  else none

/-- A numeral below 2^64, with or without a plus sign. -/
def word? : List Char → Option Nat
  | '+' :: ds => unsignedWord? ds
  | ds => unsignedWord? ds

end ViewTree.Text
