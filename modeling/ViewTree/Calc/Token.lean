import ViewTree.Calc.Fault
import ViewTree.Number.Layout
import ViewTree.Number.Reading
import ViewTree.Text.Blank
import ViewTree.Text.Parsed

/-!
# Calc — tokens

A calculation is a sequence of numbers, paths and signs with layout between them.  A path keeps
its points and brackets, so that it is looked up as a whole.  Each token knows how it was spelled
and at which byte it starts, and a token for the end of the text closes the sequence.

* `Token.scan`: the tokens of a text, or the fault at the first character that fits none.
-/

namespace ViewTree.Calc

open Text

/-- The tokens of one character. -/
inductive Sign where
  /-- Adds, or leaves an operand as it is. -/
  | plus
  /-- Subtracts, or negates an operand. -/
  | minus
  | times
  | over
  | percent
  | opening
  | closing
deriving DecidableEq, Repr

/-- The character of a sign. -/
def Sign.char : Sign → Char
  | .plus => '+'
  | .minus => '-'
  | .times => '*'
  | .over => '/'
  | .percent => '%'
  | .opening => '('
  | .closing => ')'

/-- All signs. -/
def Sign.all : List Sign :=
  [.plus, .minus, .times, .over, .percent, .opening, .closing]

/-- The sign that a character is. -/
def Sign.ofChar? (c : Char) : Option Sign :=
  Sign.all.find? fun sign => sign.char == c

/-- What a token is. -/
inductive Kind where
  | number (x : Float)
  | path (p : String)
  | sign (s : Sign)
  /-- The end of the text. -/
  | finish

/-- The words for a token. -/
def Kind.describe : Kind → String
  | .number x => "number " ++ Number.lexeme x
  | .path p => "identifier '" ++ p ++ "'"
  | .sign s => "'" ++ String.ofList [s.char] ++ "'"
  | .finish => "end of input"

/-- A token. -/
structure Token where
  kind : Kind
  /-- The byte at which it starts. -/
  offset : Nat
  /-- How it is spelled. -/
  spelling : List Char

/-- The number of bytes of a text. -/
def byteLength : List Char → Nat
  | [] => 0
  | c :: s => c.utf8Size + byteLength s

/-- The characters that a number starts with. -/
def startsNumber (c : Char) : Bool :=
  c.isDigit || c == '.'

/-- The characters that a path starts with. -/
def startsPath (c : Char) : Bool :=
  c.isAlpha || c == '_' || c == '$'

/-- The characters of a path. -/
def continuesPath (c : Char) : Bool :=
  c.isAlphanum || c == '_' || c == '$' || c == '.' || c == '[' || c == ']'

/-- Digits, with one point among them unless there was a point before, and what follows them. -/
def numberTail (pointBefore : Bool) : List Char → List Char × List Char
  | [] => ([], [])
  | c :: s =>
    if c.isDigit || (c == '.' && !pointBefore) then
      let (tail, rest) := numberTail (pointBefore || c == '.') s
      (c :: tail, rest)
    else ([], c :: s)

theorem numberTail_append (pointBefore : Bool) (s : List Char) :
    (numberTail pointBefore s).1 ++ (numberTail pointBefore s).2 = s := by
  induction s generalizing pointBefore with
  | nil => rfl
  | cons c s ih =>
    rw [numberTail]
    split
    · exact congrArg (c :: ·) (ih _)
    · rfl

theorem length_numberTail_le (pointBefore : Bool) (s : List Char) :
    (numberTail pointBefore s).2.length ≤ s.length := by
  have := congrArg List.length (numberTail_append pointBefore s)
  rw [List.length_append] at this
  omega

namespace Token

/-- The number that `c` starts. -/
def number (offset : Nat) (c : Char) (s : List Char) : Except Fault (Parsed Token (c :: s)) :=
  let spelling := c :: (numberTail (c == '.') s).1
  match Number.parse? spelling with
  | some x => .ok ⟨⟨.number x, offset, spelling⟩, (numberTail (c == '.') s).2,
      Nat.lt_succ_of_le (length_numberTail_le _ s)⟩
  | none => .error (.misplaced ("'" ++ String.ofList spelling ++ "'") offset .digits)

/-- The path that `c` starts. -/
def path (offset : Nat) (c : Char) (s : List Char) : Parsed Token (c :: s) :=
  let spelling := c :: s.takeWhile continuesPath
  ⟨⟨.path (String.ofList spelling), offset, spelling⟩, s.dropWhile continuesPath,
    Nat.lt_succ_of_le (List.dropWhile_sublist _).length_le⟩

/-- The token that `c` starts. -/
def next (offset : Nat) (c : Char) (s : List Char) : Except Fault (Parsed Token (c :: s)) :=
  match Sign.ofChar? c with
  | some sign => .ok (.one ⟨.sign sign, offset, [c]⟩)
  | none =>
    if startsNumber c then number offset c s
    else if startsPath c then .ok (path offset c s)
    else .error (.strayChar c offset)

/-- The tokens of a text that starts at a given byte. -/
def scanFrom (offset : Nat) (s : List Char) : Except Fault (List Token) :=
  match s with
  | [] => .ok [⟨.finish, offset, []⟩]
  | c :: s =>
    if isLayout c then scanFrom (offset + byteLength [c]) s
    else do
      let t ← next offset c s
      let ts ← scanFrom (offset + byteLength t.value.spelling) t.rest
      return t.value :: ts
termination_by s.length
decreasing_by
  · exact Nat.lt_succ_self _
  · exact t.shorter

/-- The tokens of a text. -/
def scan (s : List Char) : Except Fault (List Token) :=
  scanFrom 0 s

end Token

end ViewTree.Calc
