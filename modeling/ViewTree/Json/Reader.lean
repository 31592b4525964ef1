import ViewTree.Json.Basic
import ViewTree.Number.Reading
import ViewTree.Text.Parsed

/-!
# Json — reading documents

A strict reader: white space is space, tab, line feed and carriage return; a text holds no
character below U+0020 unescaped and no half of a surrogate pair; a number has no leading zero and
must not be too large; nothing but white space follows the document.  `levels` bounds how deeply
arrays and objects nest, and is what the recursion runs on.

A number without point and exponent is an integer if it lies from -2^63 up to 2^64, the upper end
excluded, except that `-0` is the negative zero.  Any other number is read in steps, each of which
rounds: as many digits as stay below 2^64 are taken in, the rest of them only count, and the number
that was taken in is multiplied or divided by a power of ten.  So a number of 16 digits or more may
be read as a neighbour of the nearest one, unlike the decimals of `Number.parse?`.
-/

namespace ViewTree.Json

open ViewTree.Text ViewTree.Number

/-- The white space between tokens. -/
def isSpace (c : Char) : Bool :=
  c == ' ' || c == '\t' || c == '\n' || c == '\r'

/-- The text without the white space it starts with. -/
def skipSpace (s : List Char) : List Char :=
  s.dropWhile isSpace

theorem length_skipSpace_le (s : List Char) : (skipSpace s).length ≤ s.length :=
  (List.dropWhile_sublist _).length_le

/-! ### Texts -/

/-- The value of a hexadecimal digit. -/
def hexValue? (c : Char) : Option Nat :=
  if c.isDigit then some (c.toNat - '0'.toNat)
  else if 'a' ≤ c && c ≤ 'f' then some (c.toNat - 'a'.toNat + 10)
  else if 'A' ≤ c && c ≤ 'F' then some (c.toNat - 'A'.toNat + 10)
  else none

/-- Four hexadecimal digits. -/
def readUnit : (s : List Char) → Option (Parsed Nat s)
  | a :: b :: c :: d :: s => do
    let a ← hexValue? a
    let b ← hexValue? b
    let c ← hexValue? c
    let d ← hexValue? d
    return ⟨((a * 16 + b) * 16 + c) * 16 + d, s, by simp only [List.length_cons]; omega⟩
  | _ => none

/-- What follows the backslash and the `u` of an escape: one unit, or the two halves of a
surrogate pair. -/
def readCodePoint (s : List Char) : Option (Parsed Char s) := do
  let first ← readUnit s
  if first.value < 0xD800 ∨ 0xE000 ≤ first.value then
    return first.map Char.ofNat
  else if first.value < 0xDC00 then
    match h : first.rest with
    | '\\' :: 'u' :: r =>
      let second ← readUnit r
      if 0xDC00 ≤ second.value ∧ second.value < 0xE000 then
        let n := 0x10000 + (first.value - 0xD800) * 0x400 + (second.value - 0xDC00)
        have shorter : r.length ≤ s.length := by
          have := first.shorter
          rw [h] at this
          simp only [List.length_cons] at this
          omega
        return (second.map fun _ => Char.ofNat n).within shorter
      else none
    | _ => none
  else none

/-- The character that a letter after a backslash stands for. -/
def escaped? (c : Char) : Option Char :=
  match c with
  | '"' => some '"'
  | '\\' => some '\\'
  | '/' => some '/'
  | 'b' => some '\x08'
  | 'f' => some '\x0c'
  | 'n' => some '\n'
  | 'r' => some '\r'
  | 't' => some '\t'
  | _ => none

/-- One character of a text. -/
def readChar : (s : List Char) → Option (Parsed Char s)
  | '\\' :: c :: r =>
    if c = 'u' then (readCodePoint r).map fun p => p.after.after
    else (escaped? c).map fun d => (Parsed.one d).after
  | c :: _ =>
    if c = '\\' ∨ c.toNat < 0x20 then none else some (.one c)
  | [] => none

/-- The characters of a text and its closing quote. -/
def readChars (s : List Char) : Option (Parsed (List Char) s) :=
  match s with
  | '"' :: _ => some (.one [])
  | s => do
    let c ← readChar s
    let cs ← readChars c.rest
    return ⟨c.value :: cs.value, cs.rest, Nat.lt_trans cs.shorter c.shorter⟩
termination_by s.length
decreasing_by exact c.shorter

/-- A text after its opening quote. -/
def readText (s : List Char) : Option (Parsed String s) :=
  (readChars s).map (·.map String.ofList)

/-! ### Numbers -/

/-- At least one digit. -/
def readDigits (s : List Char) : Option (Parsed (List Char) s) :=
  match h : s.takeWhile Char.isDigit with
  | [] => none
  | d :: ds => some ⟨d :: ds, s.dropWhile Char.isDigit, by
      have := congrArg List.length (List.takeWhile_append_dropWhile (p := Char.isDigit) (l := s))
      rw [h] at this
      simp only [List.length_append, List.length_cons] at this
      omega⟩

/-- The digits before the point: a zero stands alone. -/
def readWhole (s : List Char) : Option (Parsed (List Char) s) :=
  (readDigits s).filter fun p => p.value.length = 1 || p.value.head? != some '0'

/-- The digits after the point, none if there is no point. -/
def readFraction {s : List Char} (whole : Parsed (List Char) s) :
    Option (Parsed (List Char × Option (List Char)) s) :=
  match h : whole.rest with
  | '.' :: r => (readDigits r).map fun p =>
      (p.map fun ds => (whole.value, some ds)).within (by
        have := whole.shorter
        rw [h] at this
        simp only [List.length_cons] at this
        omega)
  | _ => some (whole.map fun ds => (ds, none))

/-- The digits of an exponent after its mark, with an optional sign. -/
def readExponentDigits : (s : List Char) → Option (Parsed Int s)
  | '-' :: s => (readDigits s).map fun p =>
      (p.map fun ds => -(digitsValue 0 ds : Int)).after
  | '+' :: s => (readDigits s).map fun p =>
      (p.map fun ds => (digitsValue 0 ds : Int)).after
  | s => (readDigits s).map fun p => p.map fun ds => (digitsValue 0 ds : Int)

/-- The number that digits denote, continued from `start`, for as long as it stays below 2^64; and
the digits that are left over. -/
def takeDigits (start : Nat) : List Char → Nat × List Char
  | [] => (start, [])
  | d :: ds =>
    let n := 10 * start + digitValue d
    if n < wordBound then takeDigits n ds else (start, d :: ds)

/-- The exponent of the largest power of ten that is a number. -/
def maxExponent : Nat := 308

/-- A number divided by `10 ^ exponent`, by at most `10 ^ 308` at a time. -/
def scaleDown (x : Float) (exponent : Nat) : Float :=
  if exponent ≤ maxExponent then x / ofDecimal 1 exponent
  else if x == 0 then x
  else scaleDown (x / ofDecimal 1 maxExponent) (exponent - maxExponent)
termination_by exponent
decreasing_by
  rw [maxExponent] at *
  omega

/-- A number times `10 ^ exponent`, unless that is too large. -/
def scaleUp? (x : Float) (exponent : Nat) : Option Float :=
  if exponent ≤ maxExponent then
    let y := x * ofDecimal 1 exponent
    if y.isInf then none else some y
  else if x == 0 then some x
  else none

/-- The magnitude of a number with a fraction or an exponent, or of one that is too large for an
integer, unless it is too large for any number.  Digits before the point that are left over raise
the exponent, and those after the point that are taken in lower it. -/
def magnitude? (whole fraction : List Char) (exponent : Int) : Option Float :=
  let (n, wholeLeft) := takeDigits 0 whole
  let (n, fractionLeft) := takeDigits n fraction
  match exponent + wholeLeft.length + fractionLeft.length - fraction.length with
  | .ofNat e => scaleUp? (ofNat n) e
  | .negSucc e => some (scaleDown (ofNat n) (e + 1))

/-- A number without point and exponent. -/
def integral? (negative : Bool) (digits : List Char) : Option Json :=
  let n := digitsValue 0 digits
  if negative then
    if 0 < n ∧ n ≤ signBit then some (int (-n))
    else (magnitude? digits [] 0).map fun x => real (-x)
  else if n < wordBound then some (int n)
  else (magnitude? digits [] 0).map real

/-- A number without its sign. -/
def readUnsigned (negative : Bool) (s : List Char) : Option (Parsed Json s) := do
  let whole ← readWhole s
  let p ← readFraction whole
  let signed := fun (x : Float) => real (if negative then -x else x)
  match h : p.rest, p.value with
  | mark :: r, (whole, fraction?) =>
    if mark = 'e' ∨ mark = 'E' then
      let e ← readExponentDigits r
      let x ← magnitude? whole (fraction?.getD []) e.value
      have shorter : r.length ≤ s.length := by
        have := p.shorter
        rw [h] at this
        simp only [List.length_cons] at this
        omega
      return (e.map fun _ => signed x).within shorter
    else match fraction? with
      | some fraction => (magnitude? whole fraction 0).map fun x => p.map fun _ => signed x
      | none => (integral? negative whole).map fun j => p.map fun _ => j
  | [], (whole, some fraction) => (magnitude? whole fraction 0).map fun x => p.map fun _ => signed x
  | [], (whole, none) => (integral? negative whole).map fun j => p.map fun _ => j

/-- A number. -/
def readNumber : (s : List Char) → Option (Parsed Json s)
  | '-' :: s => (readUnsigned true s).map Parsed.after
  | s => readUnsigned false s

/-! ### Documents -/

/-- The text after a word it starts with. -/
def readWord (word : List Char) (j : Json) (s : List Char) : Option (Parsed Json s) :=
  if h : word ≠ [] ∧ word <+: s then
    some ⟨j, s.drop word.length, by
      have := h.2.length_le
      have := List.length_pos_iff.2 h.1
      rw [List.length_drop]
      omega⟩
  else none

/-- The items of an array from the first one on, and its closing bracket. -/
def readItems (item : (s : List Char) → Option (Parsed Json s)) (s : List Char) :
    Option (Parsed (List Json) s) := do
  let j ← item s
  match h : skipSpace j.rest with
  | ',' :: r =>
    have shorter : r.length < s.length := by
      have := length_skipSpace_le j.rest
      have := j.shorter
      simp only [h, List.length_cons] at *
      omega
    let js ← readItems item r
    return (js.map fun js => j.value :: js).within (Nat.le_of_lt shorter)
  | ']' :: r =>
    return ⟨[j.value], r, by
      have := length_skipSpace_le j.rest
      have := j.shorter
      simp only [h, List.length_cons] at *
      omega⟩
  | _ => none
termination_by s.length

/-- One entry of an object: a name, a colon and a document. -/
def readEntry (item : (s : List Char) → Option (Parsed Json s)) (s : List Char) :
    Option (Parsed (String × Json) s) :=
  match h : skipSpace s with
  | '"' :: r => do
    let name ← readText r
    match h' : skipSpace name.rest with
    | ':' :: r' =>
      let j ← item r'
      return (j.map fun j => (name.value, j)).within (by
        have := length_skipSpace_le s
        have := length_skipSpace_le name.rest
        have := name.shorter
        simp only [h, h', List.length_cons] at *
        omega)
    | _ => none
  | _ => none

/-- The entries of an object from the first one on, and its closing brace. -/
def readEntries (item : (s : List Char) → Option (Parsed Json s)) (s : List Char) :
    Option (Parsed (List (String × Json)) s) := do
  let e ← readEntry item s
  match h : skipSpace e.rest with
  | ',' :: r =>
    have shorter : r.length < s.length := by
      have := length_skipSpace_le e.rest
      have := e.shorter
      simp only [h, List.length_cons] at *
      omega
    let es ← readEntries item r
    return (es.map fun es => e.value :: es).within (Nat.le_of_lt shorter)
  | '\x7d' :: r =>
    return ⟨[e.value], r, by
      have := length_skipSpace_le e.rest
      have := e.shorter
      simp only [h, List.length_cons] at *
      omega⟩
  | _ => none
termination_by s.length

/-- What follows the opening bracket of an array. -/
def readArray (item : (s : List Char) → Option (Parsed Json s)) (s : List Char) :
    Option (Parsed Json s) :=
  match h : skipSpace s with
  | ']' :: r => some ⟨array [], r, by
      have := length_skipSpace_le s
      simp only [h, List.length_cons] at this
      omega⟩
  | _ => (readItems item s).map (·.map array)

/-- What follows the opening brace of an object. -/
def readObject (item : (s : List Char) → Option (Parsed Json s)) (s : List Char) :
    Option (Parsed Json s) :=
  match h : skipSpace s with
  | '\x7d' :: r => some ⟨object [], r, by
      have := length_skipSpace_le s
      simp only [h, List.length_cons] at this
      omega⟩
  | _ => (readEntries item s).map (·.map object)

/-- A document in which at most `levels` arrays and objects lie in each other, with white space
before it. -/
def read (levels : Nat) (s : List Char) : Option (Parsed Json s) :=
  have shorter := length_skipSpace_le s
  let document : Option (Parsed Json (skipSpace s)) :=
    match skipSpace s with
    | [] => none
    | c :: r =>
      if c = '[' then match levels with
        | 0 => none
        | levels + 1 => (readArray (read levels) r).map Parsed.after
      else if c = '\x7b' then match levels with
        | 0 => none
        | levels + 1 => (readObject (read levels) r).map Parsed.after
      else if c = '"' then
        (readText r).map fun p => (p.map text).after
      else (readWord ['n', 'u', 'l', 'l'] null (c :: r)
        <|> readWord ['t', 'r', 'u', 'e'] (bool true) (c :: r)
        <|> readWord ['f', 'a', 'l', 's', 'e'] (bool false) (c :: r)
        <|> readNumber (c :: r))
  document.map (·.within shorter)

/-- How many arrays and objects may lie in each other. -/
def maxLevels : Nat := 127

/-- The document that a text holds. -/
def parse? (levels : Nat) (s : String) : Option Json := do
  let p ← read levels s.toList
  if skipSpace p.rest = [] then some p.value else none

end ViewTree.Json
