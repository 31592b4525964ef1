import ViewTree.Text.Hidden
import ViewTree.Text.Numeral

/-!
# Text — quoted text in messages

How a message shows a text it refused: between double quotes, with a backslash before a quote or a
backslash, the short forms of NUL, tab, line feed and carriage return, and the code point in braces
for every other character that does not show by itself.
-/

namespace ViewTree.Text

/-- The code point in lower-case hexadecimal between braces. -/
def escapedCodePoint (c : Char) : List Char :=
  '\\' :: 'u' :: '\x7b' :: (Nat.toDigits 16 c.toNat ++ ['\x7d'])

/-- One character of a quoted text. -/
def quotedChar (c : Char) : List Char :=
  if c = '\x00' then ['\\', '0']
  else if c = '\t' then ['\\', 't']
  else if c = '\r' then ['\\', 'r']
  else if c = '\n' then ['\\', 'n']
  else if c = '\\' then ['\\', '\\']
  else if c = '"' then ['\\', '"']
  else if isExtending c || isHidden c then escapedCodePoint c
  else [c]

/-- A text as a message shows it. -/
def quoted (s : String) : String :=
  String.ofList ('"' :: (s.toList.flatMap quotedChar ++ ['"']))

end ViewTree.Text
