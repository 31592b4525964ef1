import ViewTree.Proofs.Calc.Paths

/-!
# Calc — the grammar of a calculation

A calculation is a sum of products of operands, where an operand is a number, a path, a sign before
an operand or a calculation in parentheses.  `Derives` says which term some tokens spell and how
deeply signs and parentheses nest above its numbers and paths.

* `Term.derived_operand`: what the reader of an operand takes from the front is derived.
* `Term.reads_of_derives`: what is derived is what the readers take from the front, whatever
  follows.
* `Term.parse_eq_ok_iff`: a text has the terms that its tokens derive within the limit of nesting.
-/

namespace ViewTree.Calc

open Text

/-! ### The grammar -/

/-- What tokens can spell, the weakest binding first. -/
inductive Level where
  | sum
  | product
  /-- A primary with any signs before it. -/
  | signed
  | primary
deriving DecidableEq, Repr

/-- The sign of an operator. -/
def Operator.sign : Operator → Sign
  | .sum => .plus
  | .difference => .minus
  | .product => .times
  | .quotient => .over
  | .remainder => .percent

/-- What an operator makes of its operands. -/
def Operator.level : Operator → Level
  | .sum => .sum
  | .difference => .sum
  | .product => .product
  | .quotient => .product
  | .remainder => .product

/-- The term that tokens spell, and the largest number of signs and parentheses above one of its
numbers and paths. -/
inductive Derives : Level → List Kind → Term → Nat → Prop where
  | number (x : Float) : Derives .primary [.number x] (.number x) 0
  | path (p : String) : Derives .primary [.path p] (.path p) 0
  /-- Parentheses leave nothing behind. -/
  | group {ks t n} : Derives .sum ks t n →
      Derives .primary (.sign .opening :: (ks ++ [.sign .closing])) t (n + 1)
  | primary {ks t n} : Derives .primary ks t n → Derives .signed ks t n
  | minus {ks t n} : Derives .signed ks t n →
      Derives .signed (.sign .minus :: ks) (.negative t) (n + 1)
  /-- A plus sign leaves nothing behind. -/
  | plus {ks t n} : Derives .signed ks t n → Derives .signed (.sign .plus :: ks) t (n + 1)
  | signed {ks t n} : Derives .signed ks t n → Derives .product ks t n
  /-- The left operand of a strong operator may be a product again, the right one may not. -/
  | strong {ks js l r m n op} : Operator.level op = .product → Derives .product ks l m →
      Derives .signed js r n →
      Derives .product (ks ++ .sign op.sign :: js) (.binary op l r) (max m n)
  | product {ks t n} : Derives .product ks t n → Derives .sum ks t n
  /-- The left operand of a weak operator may be a sum again, the right one may not. -/
  | weak {ks js l r m n op} : Operator.level op = .sum → Derives .sum ks l m →
      Derives .product js r n →
      Derives .sum (ks ++ .sign op.sign :: js) (.binary op l r) (max m n)

theorem Kind.sign_ne_finish (s : Sign) : Kind.sign s ≠ .finish := nofun

/-- No term is spelled with the end of the text. -/
theorem Derives.ne_finish {level : Level} {ks : List Kind} {t : Term} {n : Nat}
    (h : Derives level ks t n) : ∀ k ∈ ks, k ≠ .finish := by
  induction h with
  | number x | path p => exact List.forall_mem_singleton.2 nofun
  | group _ ih =>
      refine List.forall_mem_cons.2 ⟨Kind.sign_ne_finish _, ?_⟩
      exact List.forall_mem_append.2 ⟨ih, List.forall_mem_singleton.2 (Kind.sign_ne_finish _)⟩
  | primary _ ih | signed _ ih | product _ ih => exact ih
  | minus _ ih | plus _ ih => exact List.forall_mem_cons.2 ⟨Kind.sign_ne_finish _, ih⟩
  | strong _ _ _ ihl ihr | weak _ _ _ ihl ihr =>
      refine List.forall_mem_append.2 ⟨ihl, ?_⟩
      exact List.forall_mem_cons.2 ⟨Kind.sign_ne_finish _, ihr⟩

/-! ### The end of the text -/

namespace Token

/-- The tokens of a text close with one for its end, and there is no other one. -/
theorem finish_of_scanFrom {offset : Nat} {s : List Char} {ts : List Token}
    (h : scanFrom offset s = .ok ts) :
    ∃ front last, ts = front ++ [last] ∧ last.kind = .finish ∧
      ∀ t ∈ front, t.kind ≠ .finish := by
  obtain ⟨front, hts, hfront⟩ := (Laid.of_scanFrom h).finish_eq
  exact ⟨front, _, hts, rfl, hfront⟩

end Token

/-! ### Operators -/

namespace Term

theorem weakOperator?_eq_some_iff {k : Kind} {op : Operator} :
    weakOperator? k = some op ↔ k = .sign op.sign ∧ op.level = .sum := by
  constructor
  · intro h
    cases k with
    | sign s => cases s <;> cases h <;> exact ⟨rfl, rfl⟩
    | number _ | path _ | finish => cases h
  · rintro ⟨rfl, hl⟩
    cases op with
    | sum | difference => rfl
    | product | quotient | remainder => cases hl

theorem strongOperator?_eq_some_iff {k : Kind} {op : Operator} :
    strongOperator? k = some op ↔ k = .sign op.sign ∧ op.level = .product := by
  constructor
  · intro h
    cases k with
    | sign s => cases s <;> cases h <;> exact ⟨rfl, rfl⟩
    | number _ | path _ | finish => cases h
  · rintro ⟨rfl, hl⟩
    cases op with
    | sum | difference => cases hl
    | product | quotient | remainder => rfl

/-- No operator is of both strengths. -/
theorem strongOperator?_of_level {op : Operator} (h : op.level = .sum) :
    strongOperator? (.sign op.sign) = none := by
  cases op with
  | sum | difference => rfl
  | product | quotient | remainder => cases h

/-! ### What is read is derived -/

/-- A term read from the front of some tokens is derived from those that it takes, within a limit
of nesting. -/
def Derived (level : Level) (limit : Nat) {ts : List Token} (read : Parsed Term ts) : Prop :=
  ∃ front n, ts = front ++ read.rest ∧ n ≤ limit ∧
    Derives level (front.map Token.kind) read.value n

/-- Every term that a reader reads is derived. -/
def Reader.Derived (reader : Reader) (level : Level) (limit : Nat) : Prop :=
  ∀ ts read, reader ts = .ok read → Term.Derived level limit read

section Chain

variable {operator? : Kind → Option Operator} {operand : Reader} {upper lower : Level} {limit : Nat}
  (hstep : ∀ {k op ks js l r m n}, operator? k = some op → Derives upper ks l m →
    Derives lower js r n → Derives upper (ks ++ k :: js) (.binary op l r) (max m n))
  (ho : operand.Derived lower limit)

include hstep ho

theorem derived_chainFrom {ts : List Token} {left read : Parsed Term ts}
    (hl : Derived upper limit left) (h : chainFrom operator? operand left = .ok read) :
    Derived upper limit read := by
  -- on the tokens left: each turn derives the operand before and the one that follows
  fun_induction chainFrom operator? operand left with
  | case1 left hrest => cases h; exact hl
  | case2 left t rest hrest hop => cases h; exact hl
  | case3 left t rest hrest op hop ih =>
      obtain ⟨right, hright, h⟩ := exists_of_bind_eq_ok h
      refine ih right ?_ h
      obtain ⟨front, m, hts, hm, hleft⟩ := hl
      obtain ⟨back, n, hback, hn, hder⟩ := ho _ _ hright
      refine ⟨front ++ t :: back, max m n, hts.trans ?_, Nat.max_le.2 ⟨hm, hn⟩, ?_⟩
      · rw [hrest, List.append_assoc, List.cons_append, ← hback]
      · rw [List.map_append, List.map_cons]
        exact hstep hop hleft hder

theorem Reader.Derived.chain (hone : ∀ {ks t n}, Derives lower ks t n → Derives upper ks t n) :
    Reader.Derived (chain operator? operand) upper limit := by
  intro ts read h
  obtain ⟨left, hleft, h⟩ := exists_of_bind_eq_ok h
  obtain ⟨front, n, hts, hn, hder⟩ := ho _ _ hleft
  exact derived_chainFrom hstep ho ⟨front, n, hts, hn, hone hder⟩ h

end Chain

theorem Reader.Derived.whole {operand : Reader} {limit : Nat}
    (ho : operand.Derived .signed limit) : Reader.Derived (whole operand) .sum limit := by
  have hproduct : Reader.Derived (Term.chain strongOperator? operand) .product limit := by
    refine Reader.Derived.chain (fun hop hl hr => ?_) ho .signed
    obtain ⟨rfl, hlevel⟩ := strongOperator?_eq_some_iff.1 hop
    exact .strong hlevel hl hr
  refine Reader.Derived.chain (fun hop hl hr => ?_) hproduct .product
  obtain ⟨rfl, hlevel⟩ := weakOperator?_eq_some_iff.1 hop
  exact .weak hlevel hl hr

/-- A number, a path, or a sign or parenthesis with what follows it. -/
theorem derived_operand_of {limit : Nat}
    (hdeeper : ∀ deeper, limit = deeper + 1 → Reader.Derived (operand deeper) .signed deeper) :
    Reader.Derived (operand limit) .signed limit := by
  intro ts read h
  cases ts with
  | nil => rw [operand.eq_def] at h; cases h
  | cons t rest =>
      obtain ⟨x, hk, rfl⟩ | ⟨p, hk, rfl⟩ | ⟨deeper, hlimit, hinside⟩ := operand_cases h
      · refine ⟨[t], 0, rfl, Nat.zero_le _, ?_⟩
        rw [List.map_singleton, hk]
        exact .primary (.number x)
      · refine ⟨[t], 0, rfl, Nat.zero_le _, ?_⟩
        rw [List.map_singleton, hk]
        exact .primary (.path p)
      · have inside := hdeeper deeper hlimit
        subst hlimit
        obtain ⟨hk, inner, hinner, rfl⟩ | ⟨hk, inner, hinner, rfl⟩ |
          ⟨hk, inner, hinner, group, hgroup, rfl⟩ := hinside
        · obtain ⟨front, n, hts, hn, hder⟩ := inside _ _ hinner
          exact ⟨t :: front, n + 1, congrArg (t :: ·) hts, Nat.succ_le_succ hn,
            by rw [List.map_cons, hk]; exact .minus hder⟩
        · obtain ⟨front, n, hts, hn, hder⟩ := inside _ _ hinner
          exact ⟨t :: front, n + 1, congrArg (t :: ·) hts, Nat.succ_le_succ hn,
            by rw [List.map_cons, hk]; exact .plus hder⟩
        · obtain ⟨front, n, hts, hn, hder⟩ := inside.whole _ _ hinner
          obtain ⟨u, hrest, hu, hvalue⟩ := closed_eq_ok hgroup
          have htaken : rest = (front ++ [u]) ++ group.rest := by
            rw [List.append_assoc, List.singleton_append, ← hrest]
            exact hts
          refine ⟨t :: (front ++ [u]), n + 1, congrArg (t :: ·) htaken, Nat.succ_le_succ hn, ?_⟩
          · rw [List.map_cons, List.map_append, List.map_singleton, hk, hu]
            exact .primary (.group (hvalue ▸ hder))

/-- What is read as an operand is derived, with signs and parentheses that nest no deeper than was
allowed. -/
theorem derived_operand (limit : Nat) : Reader.Derived (operand limit) .signed limit := by
  induction limit with
  | zero => exact derived_operand_of nofun
  | succ limit ih =>
      refine derived_operand_of fun deeper h => ?_
      cases h
      exact ih

/-! ### What is derived is read -/

/-- No operator comes next. -/
def Stops (operator? : Kind → Option Operator) (rest : List Token) : Prop :=
  ∀ t ts, rest = t :: ts → operator? t.kind = none

theorem Stops.cons {operator? : Kind → Option Operator} {t : Token} {ts : List Token}
    (h : operator? t.kind = none) : Stops operator? (t :: ts) := by
  intro u us heq
  cases heq
  exact h

theorem chainFrom_of_stops {operator? : Kind → Option Operator} {ts : List Token}
    {left : Parsed Term ts} (h : Stops operator? left.rest) (operand : Reader) :
    chainFrom operator? operand left = .ok left := by
  rw [chainFrom]
  split
  · rfl
  · next t rest hrest => rw [h t rest hrest]

/-- An operator and an operand are taken up by the term before them. -/
theorem chainFrom_of_operator {operator? : Kind → Option Operator} {operand : Reader}
    {ts rest after : List Token} {t : Token} {op : Operator} {l r : Term}
    {shorter : (t :: rest).length < ts.length} {shorter' : after.length < rest.length}
    (hop : operator? t.kind = some op) (hr : operand rest = .ok ⟨r, after, shorter'⟩) :
    chainFrom operator? operand ⟨l, t :: rest, shorter⟩ =
      chainFrom operator? operand ⟨binary op l r, after,
        Nat.lt_trans shorter' (Nat.lt_trans (Nat.lt_succ_self _) shorter)⟩ := by
  rw [chainFrom]
  simp only [hop, hr]
  rfl

/-- What the readers make of tokens that begin with something spelled at a level: an operand is
read, and of a chain so much that the next operator would go on with it. -/
def Reads (limit : Nat) (ts rest : List Token) (t : Term) : Level → Prop
  | .primary | .signed => ∃ shorter, operand limit ts = .ok ⟨t, rest, shorter⟩
  | .product => ∃ shorter, chain strongOperator? (operand limit) ts =
      chainFrom strongOperator? (operand limit) ⟨t, rest, shorter⟩
  | .sum => Stops strongOperator? rest → ∃ shorter, whole (operand limit) ts =
      chainFrom weakOperator? (chain strongOperator? (operand limit)) ⟨t, rest, shorter⟩

section Reads

variable {limit : Nat} {ts rest : List Token} {t : Term}

theorem Reads.product (h : Reads limit ts rest t .product) (hstops : Stops strongOperator? rest) :
    ∃ shorter, chain strongOperator? (operand limit) ts = .ok ⟨t, rest, shorter⟩ := by
  obtain ⟨shorter, h⟩ := h
  exact ⟨shorter, h.trans (chainFrom_of_stops hstops _)⟩

theorem Reads.sum (h : Reads limit ts rest t .sum) (hstrong : Stops strongOperator? rest)
    (hweak : Stops weakOperator? rest) :
    ∃ shorter, whole (operand limit) ts = .ok ⟨t, rest, shorter⟩ := by
  obtain ⟨shorter, h⟩ := h hstrong
  exact ⟨shorter, h.trans (chainFrom_of_stops hweak _)⟩

theorem Reads.number {u : Token} {x : Float} (hu : u.kind = .number x) :
    Reads limit (u :: rest) rest (.number x) .primary := by
  refine ⟨Nat.lt_succ_self _, ?_⟩
  rw [operand.eq_def]
  simp only [hu]
  rfl

theorem Reads.path {u : Token} {p : String} (hu : u.kind = .path p) :
    Reads limit (u :: rest) rest (.path p) .primary := by
  refine ⟨Nat.lt_succ_self _, ?_⟩
  rw [operand.eq_def]
  simp only [hu]
  rfl

/-- What stands in parentheses is read with one level less. -/
theorem Reads.group {u v : Token} (hu : u.kind = .sign .opening) (hv : v.kind = .sign .closing)
    (h : Reads limit ts (v :: rest) t .sum) : Reads (limit + 1) (u :: ts) rest t .primary := by
  have hstrong : Stops strongOperator? (v :: rest) := .cons (by rw [hv]; rfl)
  have hweak : Stops weakOperator? (v :: rest) := .cons (by rw [hv]; rfl)
  obtain ⟨shorter, h⟩ := h.sum hstrong hweak
  refine ⟨Nat.lt_succ_of_lt (Nat.lt_of_succ_lt shorter), ?_⟩
  rw [operand.eq_def]
  simp only [hu, h, bind, Except.bind, closed, hv]
  rfl

theorem Reads.minus {u : Token} (hu : u.kind = .sign .minus) (h : Reads limit ts rest t .signed) :
    Reads (limit + 1) (u :: ts) rest (.negative t) .signed := by
  obtain ⟨shorter, h⟩ := h
  refine ⟨Nat.lt_succ_of_lt shorter, ?_⟩
  rw [operand.eq_def]
  simp only [hu, h]
  rfl

theorem Reads.plus {u : Token} (hu : u.kind = .sign .plus) (h : Reads limit ts rest t .signed) :
    Reads (limit + 1) (u :: ts) rest t .signed := by
  obtain ⟨shorter, h⟩ := h
  refine ⟨Nat.lt_succ_of_lt shorter, ?_⟩
  rw [operand.eq_def]
  simp only [hu, h]
  rfl

theorem Reads.strong {op : Operator} {u : Token} {us : List Token} {l r : Term}
    (hu : u.kind = .sign op.sign) (hop : op.level = .product)
    (hl : Reads limit ts (u :: us) l .product) (hr : Reads limit us rest r .signed) :
    Reads limit ts rest (.binary op l r) .product := by
  obtain ⟨shorter, hl⟩ := hl
  obtain ⟨shorter', hr⟩ := hr
  have hnext : strongOperator? u.kind = some op := strongOperator?_eq_some_iff.2 ⟨hu, hop⟩
  exact ⟨_, hl.trans (chainFrom_of_operator hnext hr)⟩

theorem Reads.weak {op : Operator} {u : Token} {us : List Token} {l r : Term}
    (hu : u.kind = .sign op.sign) (hop : op.level = .sum)
    (hl : Reads limit ts (u :: us) l .sum) (hr : Reads limit us rest r .product) :
    Reads limit ts rest (.binary op l r) .sum := by
  intro hstops
  obtain ⟨shorter, hl⟩ := hl (.cons (hu ▸ strongOperator?_of_level hop))
  obtain ⟨shorter', hr⟩ := hr.product hstops
  have hnext : weakOperator? u.kind = some op := weakOperator?_eq_some_iff.2 ⟨hu, hop⟩
  exact ⟨_, hl.trans (chainFrom_of_operator hnext hr)⟩

end Reads

/-- What is derived is what the readers take from the front, whatever follows. -/
theorem reads_of_derives {level : Level} {ks : List Kind} {t : Term} {n : Nat}
    (h : Derives level ks t n) {limit : Nat} (hn : n ≤ limit) {front : List Token}
    (hfront : front.map Token.kind = ks) (rest : List Token) :
    Reads limit (front ++ rest) rest t level := by
  -- on the derivation, for whatever follows: after a left operand there is its operator
  induction h generalizing limit front rest with
  | number x =>
      obtain ⟨u, rfl, hu⟩ := List.map_eq_singleton_iff.1 hfront
      exact .number hu
  | path p =>
      obtain ⟨u, rfl, hu⟩ := List.map_eq_singleton_iff.1 hfront
      exact .path hu
  | group _ ih =>
      obtain ⟨u, inner, rfl, hu, hinner⟩ := List.map_eq_cons_iff.1 hfront
      obtain ⟨front, last, rfl, hphrase, hlast⟩ := List.map_eq_append_iff.1 hinner
      obtain ⟨v, rfl, hv⟩ := List.map_eq_singleton_iff.1 hlast
      obtain ⟨less, rfl⟩ := Nat.exists_eq_add_one.2 (Nat.zero_lt_of_lt hn)
      rw [List.cons_append, List.append_assoc]
      exact (ih (Nat.le_of_succ_le_succ hn) hphrase _).group hu hv
  | primary _ ih => exact ih hn hfront rest
  | minus _ ih =>
      obtain ⟨u, front, rfl, hu, hphrase⟩ := List.map_eq_cons_iff.1 hfront
      obtain ⟨less, rfl⟩ := Nat.exists_eq_add_one.2 (Nat.zero_lt_of_lt hn)
      exact (ih (Nat.le_of_succ_le_succ hn) hphrase rest).minus hu
  | plus _ ih =>
      obtain ⟨u, front, rfl, hu, hphrase⟩ := List.map_eq_cons_iff.1 hfront
      obtain ⟨less, rfl⟩ := Nat.exists_eq_add_one.2 (Nat.zero_lt_of_lt hn)
      exact (ih (Nat.le_of_succ_le_succ hn) hphrase rest).plus hu
  | signed _ ih =>
      obtain ⟨shorter, h⟩ := ih hn hfront rest
      exact ⟨shorter, by rw [chain, h]; rfl⟩
  | strong hop _ _ ihl ihr =>
      obtain ⟨left, right, rfl, hleft, hright⟩ := List.map_eq_append_iff.1 hfront
      obtain ⟨u, right, rfl, hu, hright⟩ := List.map_eq_cons_iff.1 hright
      obtain ⟨hm, hn⟩ := Nat.max_le.1 hn
      rw [List.append_assoc]
      exact .strong hu hop (ihl hm hleft _) (ihr hn hright rest)
  | product _ ih =>
      intro hstops
      obtain ⟨shorter, h⟩ := (ih hn hfront rest).product hstops
      exact ⟨shorter, by rw [whole, chain, h]; rfl⟩
  | weak hop _ _ ihl ihr =>
      obtain ⟨left, right, rfl, hleft, hright⟩ := List.map_eq_append_iff.1 hfront
      obtain ⟨u, right, rfl, hu, hright⟩ := List.map_eq_cons_iff.1 hright
      obtain ⟨hm, hn⟩ := Nat.max_le.1 hn
      rw [List.append_assoc]
      exact .weak hu hop (ihl hm hleft _) (ihr hn hright rest)

/-! ### Texts -/

/-- The tokens before the end spell a term when they derive it. -/
theorem ofTokens_eq_ok_iff {front : List Token} {last : Token} (hlast : last.kind = .finish)
    (hfront : ∀ u ∈ front, u.kind ≠ .finish) (t : Term) :
    ofTokens (front ++ [last]) = .ok t ↔
      ∃ n ≤ maxLevels, Derives .sum (front.map Token.kind) t n := by
  constructor
  · intro h
    obtain ⟨read, hread, rfl, hend⟩ := ofTokens_eq_ok h
    obtain ⟨taken, n, htaken, hn, hder⟩ := (derived_operand maxLevels).whole _ _ hread
    cases hrest : read.rest with
    | nil =>
        -- the end of the text would be part of the term
        rw [hrest, List.append_nil] at htaken
        have hmem : last.kind ∈ taken.map Token.kind :=
          List.mem_map_of_mem (htaken ▸ List.mem_append_right front (.head _))
        exact absurd hlast (hder.ne_finish _ hmem)
    | cons next more =>
        have hnext := hend next more hrest
        rw [hrest] at htaken
        rcases List.eq_nil_or_concat more with rfl | ⟨others, final, rfl⟩
        · exact ⟨n, hn, (List.append_inj' htaken rfl).1 ▸ hder⟩
        -- there would be an end before the last token
        · rw [List.concat_eq_append, ← List.cons_append, ← List.append_assoc] at htaken
          have hmem : next ∈ front :=
            (List.append_inj' htaken rfl).1 ▸ List.mem_append_right taken (.head _)
          exact absurd hnext (hfront next hmem)
  · rintro ⟨n, hn, hder⟩
    have hstrong : Stops strongOperator? [last] := .cons (by rw [hlast]; rfl)
    have hweak : Stops weakOperator? [last] := .cons (by rw [hlast]; rfl)
    obtain ⟨shorter, hread⟩ := (reads_of_derives hder hn rfl [last]).sum hstrong hweak
    rw [ofTokens, hread]
    simp only [bind, Except.bind, hlast]
    rfl

/-- **The grammar of a calculation.**  A text is read as a term exactly when it has tokens and those
before the end derive the term, with no number or path under more than 32 signs and parentheses. -/
theorem parse_eq_ok_iff (body : List Char) (t : Term) :
    parse body = .ok t ↔
      ∃ front last n, Token.scan body = .ok (front ++ [last]) ∧ last.kind = .finish ∧ n ≤ 32 ∧
        Derives .sum (front.map Token.kind) t n := by
  constructor
  · intro h
    obtain ⟨ts, hscan, h⟩ := exists_of_bind_eq_ok h
    obtain ⟨front, last, rfl, hlast, hfront⟩ := Token.finish_of_scanFrom hscan
    obtain ⟨n, hn, hder⟩ := (ofTokens_eq_ok_iff hlast hfront t).1 h
    exact ⟨front, last, n, hscan, hlast, hn, hder⟩
  · rintro ⟨front, last, n, hscan, hlast, hn, hder⟩
    have hfront : ∀ u ∈ front, u.kind ≠ .finish :=
      fun u hu => hder.ne_finish _ (List.mem_map_of_mem hu)
    have hread := (ofTokens_eq_ok_iff hlast hfront t).2 ⟨n, hn, hder⟩
    rw [parse, hscan]
    exact hread

end Term

end ViewTree.Calc
