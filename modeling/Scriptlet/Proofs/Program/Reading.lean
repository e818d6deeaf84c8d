import Scriptlet.Proofs.Program.Division

/-!
# Where reading leaves the reader

Each rule of the reader on tokens whose division is known: what it answers and
the whole reader afterwards, place, furthest refusal and log included. The two
cases of a rule, that its phrase stands there and that it does not, cover every
reader by the existence lemmas of `Division`.

Results:
1. `expression_of_tokens`, `expression_of_not_startsOperand`: the rule for
   expressions.
2. `printStatement_of_tokens`, `printStatement_of_none`: the rule for statements.
3. `statements_of_tokens`: the loop reads a whole program and one refused
   statement more.
4. `furthest_pastStatements`: no refusal of an earlier statement lies ahead of
   the reader, but for that of a `+` at which it stops.
-/

namespace Scriptlet

/-- The events of reading an expression whose first token has this place. -/
def Expression.readEvents : Expression → Nat → List Event
  | .addition left right, position =>
    left.readEvents position ++ right.readEvents (position + left.tokens.length + 1)
  | e, position => [.operand e position]

namespace Reader

/-! ## Definitions -/

/-- The reader behind an expression and before `rest`. If a `+` follows there, an
operand was looked for behind it and refused. -/
def pastExpression (r : Reader) (e : Expression) (rest : List Token) : Reader where
  rest := rest
  position := r.position + e.tokens.length
  furthest :=
    if rest.head? = some .plus then max r.furthest (r.position + e.tokens.length + 1)
    else r.furthest
  log := (e.readEvents r.position).reverse ++ r.log

def pastPrint (r : Reader) (e : Expression) (rest : List Token) : Reader :=
  pastExpression ⟨e.tokens ++ rest, r.position + 1, r.furthest, r.log⟩ e rest

/-- The reader behind a statement that it has tried and found. There is no rule
that reads a declaration. -/
def pastStatement (r : Reader) (s : Statement) (rest : List Token) : Reader :=
  match s with
  | .declaration _ _ => r
  | .print e =>
    let after := (r.note (.entered r.position)).pastPrint e rest
    (after.note (.tried true after.position)).note .left

/-- The reader behind statements that it has found one after the other. -/
def pastStatements (r : Reader) : List Statement → List Token → Reader
  | [], _ => r
  | s :: more, rest =>
    (r.pastStatement s (Program.tokens ⟨more⟩ ++ rest)).pastStatements more rest

def refusedAt (r : Reader) (position : Nat) : Reader :=
  { r with furthest := max r.furthest position }

/-- The place where a statement that does not begin here is refused: behind a
`print`, or at once. -/
def refusal (r : Reader) : Nat :=
  if r.rest.head? = some .printWord then r.position + 1 else r.position

/-- The reader after a statement that it has tried and not found. -/
def pastTrial (r : Reader) : Reader :=
  (((r.note (.entered r.position)).refusedAt r.refusal).note (.tried false r.position)).note .left

/-! ## 1. Operands and expressions -/

theorem next_of_rest {r : Reader} {token : Token} {rest : List Token}
    (h : r.rest = token :: rest) :
    r.next = (some token, ⟨rest, r.position + 1, r.furthest, r.log⟩) := by
  unfold next
  rw [h]

theorem head?_of_next {r after : Reader} {found : Option Token} (h : r.next = (found, after)) :
    r.rest.head? = found := by
  unfold next at h
  split at h <;> rename_i hrest <;> rw [hrest] <;> exact (Prod.mk.inj h).1

theorem backTo_of_next {r after : Reader} {found : Option Token} (h : r.next = (found, after)) :
    after.backTo r = r := by
  unfold next at h
  split at h <;> obtain ⟨-, rfl⟩ := Prod.mk.inj h <;> rfl

theorem operand_of_rest {r : Reader} {token : Token} {rest : List Token} {value : Expression}
    (h : r.rest = token :: rest) (hvalue : operandOf token = some value) :
    r.operand =
      (some value, ⟨rest, r.position + 1, r.furthest, .operand value r.position :: r.log⟩) := by
  unfold operand
  rw [next_of_rest h]
  simp only [hvalue]
  rfl

theorem operand_of_not_startsOperand {r : Reader} (h : ¬ StartsOperand r.rest) :
    r.operand = (none, r.refusedAt r.position) := by
  cases hoperand : r.operand with
  | mk found after =>
    cases found with
    | some value =>
      obtain ⟨token, htoken, hvalue, -⟩ := operand_some hoperand
      rw [htoken] at h
      exact absurd (DivisionLemmas.startsOperand_cons.mpr ⟨value, hvalue⟩) h
    | none => rw [(operand_none hoperand).1]; rfl

theorem sum_of_rest {r : Reader} {token : Token} {rest : List Token} {value : Expression}
    (h : r.rest = .plus :: token :: rest) (hvalue : operandOf token = some value)
    (earlier : List Expression) (last : Expression) :
    r.sum earlier last =
      sum (last :: earlier) value
        ⟨rest, r.position + 2, r.furthest, .operand value (r.position + 1) :: r.log⟩ := by
  rw [sum]
  split
  · rename_i behindPlus hplus
    rw [next_of_rest h] at hplus
    obtain ⟨-, rfl⟩ := Prod.mk.inj hplus
    split
    · rename_i found after hoperand
      rw [operand_of_rest rfl hvalue] at hoperand
      obtain ⟨hfound, rfl⟩ := Prod.mk.inj hoperand
      obtain rfl := Option.some.inj hfound
      rfl
    · rename_i after hoperand
      rw [operand_of_rest rfl hvalue] at hoperand
      exact absurd (Prod.mk.inj hoperand).1 (by simp)
  · rename_i hplus hnext
    rw [next_of_rest h] at hnext
    exact absurd (Prod.mk.inj hnext).1.symm hplus

theorem sum_of_ends {r : Reader} (h : EndsExpression r.rest) (earlier : List Expression)
    (last : Expression) :
    r.sum earlier last =
      (grouped earlier last,
        if r.rest.head? = some .plus then r.refusedAt (r.position + 1) else r) := by
  rw [sum]
  split
  · rename_i behindPlus hplus
    obtain ⟨more, hrest⟩ : ∃ more, r.rest = .plus :: more := ⟨_, rest_of_next hplus⟩
    have hnone : ¬ StartsOperand more := h more hrest
    rw [next_of_rest hrest] at hplus
    obtain ⟨-, rfl⟩ := Prod.mk.inj hplus
    split
    · rename_i found after hoperand
      rw [operand_of_not_startsOperand hnone] at hoperand
      exact absurd (Prod.mk.inj hoperand).1 (by simp)
    · rename_i after hoperand
      rw [operand_of_not_startsOperand hnone] at hoperand
      obtain ⟨-, rfl⟩ := Prod.mk.inj hoperand
      rw [if_pos (by rw [hrest]; rfl)]
      rfl
  · rename_i found after hplus hnext
    rw [backTo_of_next hnext, if_neg (by rw [head?_of_next hnext]; exact hplus)]

theorem exists_token_of_isLeaf {e : Expression} (h : e.IsLeaf) :
    ∃ token, e.tokens = [token] ∧ operandOf token = some e := by
  cases e with
  | addition => exact h.elim
  | number | string | reference => exact ⟨_, rfl, rfl⟩

theorem readEvents_of_isLeaf {e : Expression} (h : e.IsLeaf) (position : Nat) :
    e.readEvents position = [.operand e position] := by
  cases e with
  | addition => exact h.elim
  | number | string | reference => rfl

theorem pastExpression_addition (r : Reader) {left right : Expression} (hleft : left.IsLeaf)
    (rest : List Token) :
    pastExpression ⟨right.tokens ++ rest, r.position + 2, r.furthest,
        .operand left r.position :: r.log⟩ right rest =
      r.pastExpression (.addition left right) rest := by
  obtain ⟨token, htoken, -⟩ := exists_token_of_isLeaf hleft
  have hplace : r.position + (Expression.addition left right).tokens.length =
      r.position + 2 + right.tokens.length := by
    simp only [Expression.tokens, htoken, List.length_append, List.length_cons, List.length_nil]
    omega
  have hevents : (Expression.addition left right).readEvents r.position =
      .operand left r.position :: right.readEvents (r.position + 2) := by
    rw [Expression.readEvents, readEvents_of_isLeaf hleft, htoken]
    rfl
  simp only [pastExpression, hplace, hevents, List.reverse_cons, List.append_assoc,
    List.singleton_append]

theorem pastExpression_of_isLeaf (r : Reader) {e : Expression} (h : e.IsLeaf)
    (rest : List Token) :
    r.pastExpression e rest =
      let after : Reader := ⟨rest, r.position + 1, r.furthest, .operand e r.position :: r.log⟩
      if rest.head? = some .plus then after.refusedAt (r.position + 2) else after := by
  obtain ⟨token, htoken, -⟩ := exists_token_of_isLeaf h
  simp only [pastExpression, htoken, readEvents_of_isLeaf h, List.length_singleton,
    List.reverse_singleton, List.singleton_append]
  split <;> rfl

theorem operand_sum_of_isLeaf {e : Expression} (he : e.IsLeaf) {rest : List Token}
    (hends : EndsExpression rest) {r : Reader} (h : r.rest = e.tokens ++ rest)
    (earlier : List Expression) :
    ∃ first after, r.operand = (some first, after) ∧
      after.sum earlier first = (grouped earlier e, r.pastExpression e rest) := by
  obtain ⟨token, htoken, hvalue⟩ := exists_token_of_isLeaf he
  rw [htoken, List.singleton_append] at h
  refine ⟨e, _, operand_of_rest h hvalue, ?_⟩
  rw [sum_of_ends hends, pastExpression_of_isLeaf r he]

/-- The operand loop reads a whole canonical expression. The induction is on the
expression: the loop takes one operand, and `earlier` takes up what it passes. -/
theorem operand_sum_of_tokens {e : Expression} (he : e.Canonical) {rest : List Token}
    (hends : EndsExpression rest) {r : Reader} (h : r.rest = e.tokens ++ rest)
    (earlier : List Expression) :
    ∃ first after, r.operand = (some first, after) ∧
      after.sum earlier first = (grouped earlier e, r.pastExpression e rest) := by
  induction e generalizing r earlier with
  | addition left right _ ih =>
    obtain ⟨hleft, hright⟩ := he
    obtain ⟨token, htoken, hvalue⟩ := exists_token_of_isLeaf hleft
    rw [Expression.tokens, htoken, List.append_assoc] at h
    refine ⟨left, _, operand_of_rest h hvalue, ?_⟩
    obtain ⟨second, after, hoperand, hsum⟩ := ih hright
      (r := ⟨right.tokens ++ rest, r.position + 2, r.furthest, .operand left r.position :: r.log⟩)
      rfl (left :: earlier)
    obtain ⟨secondToken, hsecond, hsecondValue, hafter⟩ := operand_some hoperand
    rw [sum_of_rest (congrArg _ hsecond) hsecondValue, ← hafter, hsum,
      pastExpression_addition r hleft]
    rfl
  | number | string | reference =>
    refine operand_sum_of_isLeaf ?_ hends h earlier
    trivial

theorem expression_of_tokens {e : Expression} (he : e.Canonical) {rest : List Token}
    (hends : EndsExpression rest) {r : Reader} (h : r.rest = e.tokens ++ rest) :
    r.expression = (some e, r.pastExpression e rest) := by
  obtain ⟨first, after, hoperand, hsum⟩ := operand_sum_of_tokens he hends h []
  unfold expression
  rw [hoperand]
  simp only [hsum]
  rfl

theorem expression_of_not_startsOperand {r : Reader} (h : ¬ StartsOperand r.rest) :
    r.expression = (none, r.refusedAt r.position) := by
  unfold expression
  rw [operand_of_not_startsOperand h]

/-! ## 2. Statements -/

theorem printStatement_of_tokens {e : Expression} (he : e.Canonical) {rest : List Token}
    (hends : EndsExpression rest) {r : Reader} (h : r.rest = .printWord :: (e.tokens ++ rest)) :
    r.printStatement = (some (.print e), r.pastPrint e rest) := by
  unfold printStatement
  rw [next_of_rest h]
  simp only [expression_of_tokens he hends (r := ⟨e.tokens ++ rest, _, _, _⟩) rfl]
  rfl

/-- No statement begins where the reader is. -/
theorem printStatement_of_none {r : Reader}
    (h : ∀ more, r.rest = .printWord :: more → ¬ StartsOperand more) :
    r.printStatement = (none, r.refusedAt r.refusal) := by
  unfold printStatement refusal
  by_cases hprint : r.rest.head? = some .printWord
  · obtain ⟨more, hrest⟩ := List.head?_eq_some_iff.mp hprint
    rw [next_of_rest hrest, if_pos hprint]
    simp only [expression_of_not_startsOperand (r := ⟨more, _, _, _⟩) (h more hrest)]
    simp only [refusedAt, backTo]
  · rw [if_neg hprint]
    split
    · rename_i behindPrint hnext
      exact absurd (head?_of_next hnext) hprint
    · rename_i found after hnot hnext
      have hfurthest : (after.backTo r).furthest = r.furthest := by rw [backTo_of_next hnext]
      change after.furthest = r.furthest at hfurthest
      rw [refuse, backTo_of_next hnext, hfurthest]
      rfl

theorem statement_of_tokens {s : Statement} (hs : s.Canonical) {rest : List Token}
    (hends : EndsExpression rest) {r : Reader} (h : r.rest = s.tokens ++ rest) :
    r.statement = (some s, r.pastStatement s rest) := by
  cases s with
  | declaration => exact hs.elim
  | print e =>
    rw [statement_eq]
    simp only [printStatement_of_tokens hs hends (r := r.note (.entered r.position)) h]
    rfl

theorem statement_of_none {r : Reader}
    (h : ∀ more, r.rest = .printWord :: more → ¬ StartsOperand more) :
    r.statement = (none, r.pastTrial) := by
  rw [statement_eq]
  simp only [printStatement_of_none (r := r.note (.entered r.position)) h]
  rfl

/-! ## 3. The loop -/

theorem statementsOnto_of_some {r after : Reader} {s : Statement}
    (h : r.statement = (some s, after)) (found : Array Statement) :
    r.statementsOnto found = after.statementsOnto (found.push s) := by
  rw [statementsOnto]
  split
  · rename_i s' after' h'
    obtain ⟨hs, rfl⟩ := Prod.mk.inj (h.symm.trans h')
    rw [Option.some.inj hs]
  · rename_i after' h'
    exact absurd (Prod.mk.inj (h.symm.trans h')).1 (by simp)

theorem statementsOnto_of_none {r after : Reader} (h : r.statement = (none, after))
    (found : Array Statement) : r.statementsOnto found = (found, after) := by
  rw [statementsOnto]
  split
  · rename_i s' after' h'
    exact absurd (Prod.mk.inj (h.symm.trans h')).1 (by simp)
  · rename_i after' h'
    rw [(Prod.mk.inj (h.symm.trans h')).2]

theorem rest_pastStatement {s : Statement} (hs : s.Canonical) (r : Reader) (rest : List Token) :
    (r.pastStatement s rest).rest = rest := by
  cases s with
  | declaration => exact hs.elim
  | print => rfl

theorem statementsOnto_of_tokens {statements : List Statement} {rest : List Token}
    (hcanonical : Program.Canonical ⟨statements⟩) (hends : Program.Ends ⟨statements⟩ rest)
    {r : Reader} (h : r.rest = Program.tokens ⟨statements⟩ ++ rest) (found : Array Statement) :
    r.statementsOnto found =
      (found ++ statements.toArray, (r.pastStatements statements rest).pastTrial) := by
  induction statements generalizing r found with
  | nil =>
    have hnone : r.statement = (none, r.pastTrial) :=
      statement_of_none fun more hmore => hends _ _ (h.symm.trans hmore) (.inl rfl)
    rw [statementsOnto_of_none hnone, pastStatements, Array.append_empty]
  | cons s statements ih =>
    obtain ⟨hs, hstatements⟩ := Program.canonical_cons.mp hcanonical
    rw [Program.tokens_cons, List.append_assoc] at h
    rw [statementsOnto_of_some (statement_of_tokens hs (hends.head hstatements) h),
      ih hstatements hends.tail (rest_pastStatement hs r _), pastStatements]
    simp

/-- The loop reads the statements of a program and tries one more where it ends. -/
theorem statements_of_tokens {p : Program} (hp : p.Canonical) {rest : List Token}
    (hends : p.Ends rest) {r : Reader} (h : r.rest = p.tokens ++ rest) :
    r.statements = (p.statements, (r.pastStatements p.statements rest).pastTrial) := by
  unfold statements
  rw [statementsOnto_of_tokens hp hends h]
  simp

/-! ## 4. Where the reader is then -/

theorem rest_pastStatements (statements : List Statement) {rest : List Token}
    (hcanonical : Program.Canonical ⟨statements⟩) {r : Reader}
    (h : r.rest = Program.tokens ⟨statements⟩ ++ rest) :
    (r.pastStatements statements rest).rest = rest := by
  induction statements generalizing r with
  | nil => exact h
  | cons s statements ih =>
    obtain ⟨hs, hstatements⟩ := Program.canonical_cons.mp hcanonical
    exact ih hstatements (rest_pastStatement hs r _)

theorem position_pastStatement {s : Statement} (hs : s.Canonical) (r : Reader)
    (rest : List Token) :
    (r.pastStatement s rest).position = r.position + s.tokens.length := by
  cases s with
  | declaration => exact hs.elim
  | print e => exact Nat.add_right_comm r.position 1 e.tokens.length

theorem position_pastStatements {statements : List Statement}
    (hcanonical : Program.Canonical ⟨statements⟩) (r : Reader) (rest : List Token) :
    (r.pastStatements statements rest).position =
      r.position + (Program.tokens ⟨statements⟩).length := by
  induction statements generalizing r with
  | nil => rfl
  | cons s statements ih =>
    obtain ⟨hs, hstatements⟩ := Program.canonical_cons.mp hcanonical
    rw [pastStatements, ih hstatements, position_pastStatement hs, Program.tokens_cons,
      List.length_append, Nat.add_assoc]

theorem furthest_pastStatement {s : Statement} (hs : s.Canonical) {r : Reader}
    {rest : List Token} (h : rest.head? ≠ some .plus) :
    (r.pastStatement s rest).furthest = r.furthest := by
  cases s with
  | declaration => exact hs.elim
  | print => exact if_neg h

theorem furthest_pastStatement_of_plus {s : Statement} (hs : s.Canonical) {r : Reader}
    (hle : r.furthest ≤ r.position) {rest : List Token} (h : rest.head? = some .plus) :
    (r.pastStatement s rest).furthest = (r.pastStatement s rest).position + 1 := by
  have hplace := position_pastStatement hs r rest
  cases s with
  | declaration => exact hs.elim
  | print e =>
    refine (if_pos h).trans (Nat.max_eq_right ?_)
    show r.furthest ≤ (r.pastStatement (.print e) rest).position + 1
    omega

/-- While statements are found, no refusal lies ahead of the reader, and the last
one only when a `+` follows it. -/
theorem furthest_pastStatements (statements : List Statement) (rest : List Token)
    (hcanonical : Program.Canonical ⟨statements⟩) {r : Reader} (h : r.furthest ≤ r.position) :
    let after := r.pastStatements statements rest
    if rest.head? = some .plus ∧ statements ≠ [] then after.furthest = after.position + 1
    else after.furthest ≤ after.position := by
  induction statements generalizing r with
  | nil => simpa [pastStatements] using h
  | cons s statements ih =>
    obtain ⟨hs, hstatements⟩ := Program.canonical_cons.mp hcanonical
    have hle : ∀ {rest : List Token}, rest.head? ≠ some .plus →
        (r.pastStatement s rest).furthest ≤ (r.pastStatement s rest).position := by
      intro rest hrest
      rw [furthest_pastStatement hs hrest, position_pastStatement hs]
      exact Nat.le_trans h (Nat.le_add_right _ _)
    cases statements with
    | nil =>
      show if _ then (r.pastStatement s rest).furthest = (r.pastStatement s rest).position + 1
        else (r.pastStatement s rest).furthest ≤ (r.pastStatement s rest).position
      split
      · rename_i hplus
        exact furthest_pastStatement_of_plus hs h hplus.1
      · rename_i hplus
        exact hle fun hhead => hplus ⟨hhead, by simp⟩
    | cons next statements =>
      have hprint : (Program.tokens ⟨next :: statements⟩ ++ rest).head? = some .printWord :=
        (Program.head_tokens_append hstatements rest).resolve_left (by simp)
      simpa [pastStatements] using ih hstatements (hle (by rw [hprint]; simp))

end Reader

end Scriptlet
