import ViewTree.Json.Writer
import ViewTree.Text.Quoted

/-!
# Json — documents of an expected shape

Readers from a document to a value of a given type.  Each either succeeds or gives a `Mismatch`,
the first one in the order in which the parts of the document are read.
-/

namespace ViewTree.Json

open ViewTree.Text

/-- What a document is expected to be. -/
inductive Shape where
  | text
  | sequence
  | word
  | signedWord
  /-- An object, or the array of its fields. -/
  | table
deriving DecidableEq, Repr

/-- The words for a shape. -/
def Shape.describe : Shape → String
  | .text => "a string"
  | .sequence => "a sequence"
  | .word => "usize"
  | .signedWord => "a signed word"
  | .table => "a map"

/-- Why a document is not of the expected shape. -/
inductive Mismatch where
  | type (found : Json) (expected : Shape)
  | range (found : Int) (expected : Shape)
  /-- A field is given twice, maybe under its two names. -/
  | repeated (field : String)
  | missing (field : String)
  /-- An array has more items than there are fields. -/
  | surplus (count : Nat)

/-- A document as a message shows it: its type, and its value if that is short. -/
def describe : Json → String
  | null => "null"
  | bool b => "boolean `" ++ String.ofList (writeBool b) ++ "`"
  | int n => "integer `" ++ String.ofList (signedDigits n) ++ "`"
  | real x => "floating point `" ++ String.ofList (writeReal x) ++ "`"
  | text s => "string " ++ quoted s
  | array _ => "sequence"
  | object _ => "map"

/-- The message of a mismatch. -/
def Mismatch.message : Mismatch → String
  | .type found expected => "invalid type: " ++ describe found ++ ", expected " ++ expected.describe
  | .range found expected =>
    "invalid value: " ++ describe (int found) ++ ", expected " ++ expected.describe
  | .repeated field => "duplicate field `" ++ field ++ "`"
  | .missing field => "missing field `" ++ field ++ "`"
  | .surplus count =>
    "invalid length " ++ String.ofList (digits count) ++ ", expected fewer elements in array"

/-- A text. -/
def asText : Json → Except Mismatch String
  | text s => .ok s
  | j => .error (.type j .text)

/-- An array of texts. -/
def asTexts : Json → Except Mismatch (List String)
  | array items => items.mapM asText
  | j => .error (.type j .sequence)

/-- A number without a fraction, at least 0 and below 2^64: one that is not changed by being put
into a word. -/
def asWord : Json → Except Mismatch UInt64
  | int n =>
    let word := UInt64.ofInt n
    if word.toNat = n then .ok word else .error (.range n .word)
  | j => .error (.type j .word)

/-- A number without a fraction, from -2^63 up to 2^63, the upper end excluded: one that is not
changed by being put into a signed word. -/
def asSignedWord : Json → Except Mismatch Int64
  | int n =>
    let word := Int64.ofInt n
    if word.toInt = n then .ok word else .error (.range n .signedWord)
  | j => .error (.type j .signedWord)

/-- Nothing for null. -/
def asOptional {α : Type} (decode : Json → Except Mismatch α) : Json → Except Mismatch (Option α)
  | null => .ok none
  | j => some <$> decode j

/-- The entries of an object; an array gives the fields in the order of `names`, later ones left
out. -/
def asEntries (names : List String) : Json → Except Mismatch (List (String × Json))
  | object entries => .ok entries
  | array items =>
    if items.length ≤ names.length then .ok (names.zip items) else .error (.surplus items.length)
  | j => .error (.type j .table)

/-- A field that may be left out.  It can be given under any of its names, the first of which is
the one that a message shows, and only once. -/
def field {α : Type} (name : String) (others : List String) (decode : Json → Except Mismatch α)
    (entries : List (String × Json)) : Except Mismatch (Option α) :=
  match entries.filter fun e => e.1 == name || others.contains e.1 with
  | [] => .ok none
  | [e] => some <$> decode e.2
  | e :: _ :: _ => do
    let _ ← decode e.2
    .error (.repeated name)

end ViewTree.Json
