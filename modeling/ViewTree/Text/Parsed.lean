/-!
# Text — reading from the front

A reader takes something off the front of a list and says what is left.  `Parsed` carries the
proof that what is left is shorter, which is why a repetition of readers ends.
-/

namespace ViewTree.Text

/-- A value read from the front of `s`. -/
structure Parsed {τ : Type} (α : Type) (s : List τ) where
  value : α
  rest : List τ
  shorter : rest.length < s.length

namespace Parsed

variable {τ α β : Type} {a : τ} {s t : List τ}

/-- The first element alone, read as a value. -/
def one (value : α) : Parsed α (a :: s) :=
  ⟨value, s, Nat.lt_succ_self _⟩

/-- The same reading with another value. -/
def map (f : α → β) (p : Parsed α s) : Parsed β s :=
  ⟨f p.value, p.rest, p.shorter⟩

/-- The same reading after one more element. -/
def after (p : Parsed α s) : Parsed α (a :: s) :=
  ⟨p.value, p.rest, Nat.lt_succ_of_lt p.shorter⟩

/-- The same reading seen from a longer list. -/
def within (p : Parsed α t) (h : t.length ≤ s.length) : Parsed α s :=
  ⟨p.value, p.rest, Nat.lt_of_lt_of_le p.shorter h⟩

end Parsed

end ViewTree.Text
