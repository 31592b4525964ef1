import ViewTree.Number.Binary
import ViewTree.Text.Blank
import ViewTree.Text.Numeral

/-!
# Number — reading decimals

Which texts are decimals, and the number each stands for: the nearest one, a tie going to the even
significand, infinity above the largest number and zero below half the least.
-/

namespace ViewTree.Number

open ViewTree.Text

/-- The number nearest to `digits · 10 ^ exponent`.  Exponents that no digits make up for are
decided at once: with `log2 digits` binary digits, everything under `10 ^ -400` is zero. -/
def ofDecimal (digits : Nat) (exponent : Int) : Float :=
  if digits = 0 then 0
  else if 400 < exponent then infinity
  else if exponent + digits.log2 < -400 then 0
  else Float.ofScientific digits (decide (exponent < 0)) exponent.natAbs

/-- The number nearest to an integer. -/
def ofInt (n : Int) : Float :=
  if n < 0 then -(ofDecimal n.natAbs 0) else ofDecimal n.natAbs 0

/-- The number nearest to a natural number. -/
def ofNat (n : Nat) : Float :=
  ofDecimal n 0

/-- An unsigned decimal in its written parts: the digits before the point, those after it, and the
exponent. -/
structure Written where
  whole : List Char
  fraction : List Char
  exponent : Int

/-- The number a written decimal stands for. -/
def Written.value (w : Written) : Float :=
  ofDecimal (digitsValue 0 (w.whole ++ w.fraction)) (w.exponent - w.fraction.length)

/-- An exponent after its mark: an optional sign and at least one digit, and nothing else. -/
def exponent? (s : List Char) : Option Int :=
  let (negative, ds) : Bool × List Char := match s with
    | '-' :: ds => (true, ds)
    | '+' :: ds => (false, ds)
    | ds => (false, ds)
  if ds.isEmpty || !ds.all Char.isDigit then none
  else some (if negative then -(digitsValue 0 ds : Int) else digitsValue 0 ds)

/-- An unsigned decimal that fills the text: digits with at most one point and at least one digit
among them, and an optional exponent. -/
def written? (s : List Char) : Option Written :=
  let whole := s.takeWhile Char.isDigit
  let afterWhole := s.dropWhile Char.isDigit
  let (fraction, rest) : List Char × List Char := match afterWhole with
    | '.' :: r => (r.takeWhile Char.isDigit, r.dropWhile Char.isDigit)
    | r => ([], r)
  if whole.isEmpty && fraction.isEmpty then none
  else match rest with
    | [] => some ⟨whole, fraction, 0⟩
    | mark :: r =>
      if mark = 'e' || mark = 'E' then (exponent? r).map fun e => ⟨whole, fraction, e⟩ else none

/-- An unsigned number: a decimal, or one of the words for infinity and for no number in any
letter case. -/
def unsigned? (s : List Char) : Option Float :=
  let lower := s.map Char.toLower
  if lower = ['i', 'n', 'f'] || lower = ['i', 'n', 'f', 'i', 'n', 'i', 't', 'y'] then some infinity
  else if lower = ['n', 'a', 'n'] then some nan
  else (written? s).map Written.value

/-- The number a text stands for, with an optional sign and without blanks around it. -/
def parse? : List Char → Option Float
  | '-' :: s => (unsigned? s).map fun x => -x
  | '+' :: s => unsigned? s
  | s => unsigned? s

end ViewTree.Number
