/-!
# Text — blank characters

The characters that count as white space around an expression, a path or a numeral, and the two
functions that strip them.  `isBlank` is the Unicode property White_Space: 25 characters, six of
them ASCII.  `isLayout` is the smaller ASCII class that separates the tokens of a calculation;
U+000B is blank and is not layout.
-/

namespace ViewTree.Text

/-- The Unicode property White_Space. -/
def isBlank (c : Char) : Bool :=
  let n := c.toNat
  (0x09 ≤ n && n ≤ 0x0D) || n == 0x20 || n == 0x85 || n == 0xA0 || n == 0x1680 ||
    (0x2000 ≤ n && n ≤ 0x200A) || n == 0x2028 || n == 0x2029 || n == 0x202F || n == 0x205F ||
    n == 0x3000

/-- Space, tab, line feed, form feed and carriage return. -/
def isLayout (c : Char) : Bool :=
  c == ' ' || c == '\t' || c == '\n' || c == '\x0c' || c == '\r'

/-- The text without the blanks at its end. -/
def trimEnd (s : List Char) : List Char :=
  (s.reverse.dropWhile isBlank).reverse

/-- The text without the blanks at its two ends. -/
def trim (s : List Char) : List Char :=
  trimEnd (s.dropWhile isBlank)

/-- Whether a text holds nothing but blanks. -/
def allBlank (s : List Char) : Bool :=
  s.all isBlank

end ViewTree.Text
