import ViewTree.Json.Basic
import ViewTree.Number.Layout

/-!
# Json — compact text

The text of a document without white space.  A text escapes the quote, the backslash and the
characters below U+0020, the last with two-letter forms where there are any; everything else
stands for itself.  Numbers follow `jsonLayout`, and what is not finite is written as null.
-/

namespace ViewTree.Json

open ViewTree.Text ViewTree.Number

/-- A hexadecimal digit in lower case. -/
def hexDigit (n : Nat) : Char :=
  Nat.digitChar (n % 16)

/-- One character of a text. -/
def writeChar (c : Char) : List Char :=
  if c = '"' then ['\\', '"']
  else if c = '\\' then ['\\', '\\']
  else if c = '\n' then ['\\', 'n']
  else if c = '\r' then ['\\', 'r']
  else if c = '\t' then ['\\', 't']
  else if c = '\x08' then ['\\', 'b']
  else if c = '\x0c' then ['\\', 'f']
  else if c.toNat < 0x20 then
    ['\\', 'u', '0', '0', hexDigit (c.toNat / 16), hexDigit c.toNat]
  else [c]

/-- A text between quotes. -/
def writeText (s : String) : List Char :=
  '"' :: (s.toList.flatMap writeChar ++ ['"'])

/-- The null literal. -/
def writeNull : List Char :=
  ['n', 'u', 'l', 'l']

/-- A truth value. -/
def writeBool : Bool → List Char
  | true => ['t', 'r', 'u', 'e']
  | false => ['f', 'a', 'l', 's', 'e']

/-- A number with a fraction or an exponent. -/
def writeReal (x : Float) : List Char :=
  match decode x with
  | .finite b => jsonLayout.write b
  | _ => writeNull

/-- Texts with commas between them. -/
def commaSeparated (texts : List (List Char)) : List Char :=
  [','].intercalate texts

mutual

/-- The compact text of a document. -/
def write : Json → List Char
  | null => writeNull
  | bool b => writeBool b
  | int n => signedDigits n
  | real x => writeReal x
  | text s => writeText s
  | array items => '[' :: (commaSeparated (writeItems items) ++ [']'])
  | object entries => '\x7b' :: (commaSeparated (writeEntries entries) ++ ['\x7d'])

/-- The texts of the items of an array. -/
def writeItems : List Json → List (List Char)
  | [] => []
  | j :: js => write j :: writeItems js

/-- The texts of the entries of an object. -/
def writeEntries : List (String × Json) → List (List Char)
  | [] => []
  | (name, j) :: es => (writeText name ++ ':' :: write j) :: writeEntries es

end

/-- The compact text of a document. -/
def render (j : Json) : String :=
  String.ofList j.write

end ViewTree.Json
