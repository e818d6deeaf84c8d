import Scriptlet.Proofs.Program.Reading

/-!
# Rules read a whole phrase or nothing

A rule that finds its phrase moves the reader behind the tokens of that phrase, and one
that does not find it leaves the reader where it was. Either way the furthest refusal
stays among the tokens and never moves back.

The furthest refusal is kept from one statement to the next, and still it is never
mistaken for one of the next statement: it lies ahead of the reader only before a `+`
behind a sum, and no statement begins there.

Results:
1. `expression_cases`, `printStatement_cases`, `statement_cases`: what a rule does.
2. `operand_atomic`, `expression_atomic`, `printStatement_atomic`, `statement_atomic`: a
   rule reads a whole phrase or nothing.
3. `Tries.settled`: where the loop tries a statement, no refusal is left over.
4. `rules_atomic`: all of this about every list of tokens.
-/

namespace Scriptlet

namespace Reader

/-! ## Definitions -/

/-- The reader stands at one of the tokens or behind the last of them, and so does its
furthest refusal. -/
structure Within (tokens : List Token) (r : Reader) : Prop where
  rest : r.rest = tokens.drop r.position
  position_le : r.position ≤ tokens.length
  furthest_le : r.furthest ≤ tokens.length

/-- From `r` to `after` exactly these tokens are read, and no refusal is forgotten. -/
structure Advances (r after : Reader) (read : List Token) : Prop where
  rest : r.rest = read ++ after.rest
  position : after.position = r.position + read.length
  furthest_le : r.furthest ≤ after.furthest

/-- A rule reads the tokens with which its phrase is written, or none. -/
structure Atomic {α : Type} (written : α → List Token) (rule : Reader → Option α × Reader) :
    Prop where
  finds : ∀ {tokens r phrase after}, Within tokens r → rule r = (some phrase, after) →
    Within tokens after ∧ Advances r after (written phrase)
  declines : ∀ {tokens r after}, Within tokens r → rule r = (none, after) →
    Within tokens after ∧ Advances r after []

/-- The readers from which the loop tries to read a statement: the one before the first
token, and the one behind each statement that was found. -/
inductive Tries (tokens : List Token) : Reader → Prop
  | first : Tries tokens (ofTokens tokens)
  | again {r after : Reader} {s : Statement} :
      Tries tokens r → r.statement = (some s, after) → Tries tokens after

/-- The furthest refusal does not lie ahead of the reader, unless it is that of the token
behind a `+` at which the reader stands. -/
def Settled (r : Reader) : Prop :=
  r.furthest ≤ r.position ∨ (r.furthest = r.position + 1 ∧ r.rest.head? = some .plus)

/-! ## 1. What a rule does -/

theorem expression_cases (r : Reader) :
    (∃ e rest, r.rest = e.tokens ++ rest ∧ r.expression = (some e, r.pastExpression e rest)) ∨
      r.expression = (none, r.refusedAt r.position) := by
  by_cases hstart : StartsOperand r.rest
  · obtain ⟨e, rest, he, hrest, hends⟩ := exists_expression r.rest hstart
    exact .inl ⟨e, rest, hrest, expression_of_tokens he hends hrest⟩
  · exact .inr (expression_of_not_startsOperand hstart)

/-- A print statement is there, or no operand stands behind a `print` here. -/
theorem exists_print_or (tokens : List Token) :
    (∃ e rest, Expression.Canonical e ∧ EndsExpression rest ∧
      tokens = .printWord :: (e.tokens ++ rest)) ∨
      ∀ more, tokens = .printWord :: more → ¬ StartsOperand more := by
  by_cases hprint : ∃ more, tokens = .printWord :: more ∧ StartsOperand more
  · obtain ⟨more, rfl, hstart⟩ := hprint
    obtain ⟨e, rest, he, rfl, hends⟩ := exists_expression more hstart
    exact .inl ⟨e, rest, he, hends, rfl⟩
  · exact .inr fun more hmore hstart => hprint ⟨more, hmore, hstart⟩

theorem printStatement_cases (r : Reader) :
    (∃ e rest, r.rest = .printWord :: (e.tokens ++ rest) ∧
      r.printStatement = (some (.print e), r.pastPrint e rest)) ∨
      r.printStatement = (none, r.refusedAt r.refusal) := by
  cases exists_print_or r.rest with
  | inl hprint =>
    obtain ⟨e, rest, he, hends, hrest⟩ := hprint
    exact .inl ⟨e, rest, hrest, printStatement_of_tokens he hends hrest⟩
  | inr hnone => exact .inr (printStatement_of_none hnone)

theorem statement_cases (r : Reader) :
    (∃ e rest, Expression.Canonical e ∧ r.rest = .printWord :: (e.tokens ++ rest) ∧
      r.statement = (some (.print e), r.pastStatement (.print e) rest)) ∨
      r.statement = (none, r.pastTrial) := by
  cases exists_print_or r.rest with
  | inl hprint =>
    obtain ⟨e, rest, he, hends, hrest⟩ := hprint
    have hs : (Statement.print e).Canonical := he
    exact .inl ⟨e, rest, he, hrest, statement_of_tokens hs hends hrest⟩
  | inr hnone => exact .inr (statement_of_none hnone)

/-! ## 2. Rules are atomic -/

section Moves

variable {tokens : List Token} {r after : Reader}

theorem Within.length_eq (h : Within tokens r) : tokens.length = r.position + r.rest.length := by
  rw [h.rest, List.length_drop, Nat.add_sub_cancel' h.position_le]

theorem Within.of_advances (h : Within tokens r) {read : List Token}
    (hadvances : Advances r after read) (hfurthest : after.furthest ≤ tokens.length) :
    Within tokens after := by
  have hlength := h.length_eq
  rw [hadvances.rest, List.length_append, ← Nat.add_assoc, ← hadvances.position] at hlength
  refine ⟨?_, Nat.le.intro hlength.symm, hfurthest⟩
  rw [hadvances.position, ← List.drop_drop, ← h.rest, hadvances.rest, List.drop_left]

theorem advances_refusedAt (r : Reader) (position : Nat) :
    Advances r (r.refusedAt position) [] :=
  ⟨rfl, rfl, Nat.le_max_left _ _⟩

theorem Within.refusedAt (h : Within tokens r) {position : Nat} (hle : position ≤ tokens.length) :
    Within tokens (r.refusedAt position) :=
  h.of_advances (advances_refusedAt r position) (Nat.max_le.mpr ⟨h.furthest_le, hle⟩)

/-- A `print` without an operand is refused at the token behind it, or at the end. -/
theorem Within.refusal_le (h : Within tokens r) : r.refusal ≤ tokens.length := by
  unfold refusal
  split
  · rename_i hprint
    obtain ⟨more, hmore⟩ := List.head?_eq_some_iff.mp hprint
    rw [h.length_eq, hmore, List.length_cons]
    exact Nat.add_le_add_left (Nat.le_add_left 1 _) _
  · exact h.position_le

theorem advances_pastExpression {e : Expression} {rest : List Token}
    (hrest : r.rest = e.tokens ++ rest) : Advances r (r.pastExpression e rest) e.tokens := by
  refine ⟨hrest, rfl, ?_⟩
  show r.furthest ≤ if rest.head? = some .plus then _ else r.furthest
  split
  · exact Nat.le_max_left _ _
  · exact Nat.le_refl _

theorem Within.pastExpression (h : Within tokens r) {e : Expression} {rest : List Token}
    (hrest : r.rest = e.tokens ++ rest) : Within tokens (r.pastExpression e rest) := by
  refine h.of_advances (advances_pastExpression hrest) ?_
  show (if rest.head? = some .plus then _ else r.furthest) ≤ tokens.length
  split
  · rename_i hplus
    obtain ⟨more, rfl⟩ := List.head?_eq_some_iff.mp hplus
    refine Nat.max_le.mpr ⟨h.furthest_le, ?_⟩
    rw [h.length_eq, hrest, List.length_append, List.length_cons, Nat.add_assoc]
    exact Nat.add_le_add_left (Nat.add_le_add_left (Nat.le_add_left 1 _) _) _
  · exact h.furthest_le

theorem advances_print {more : List Token} (hrest : r.rest = .printWord :: more) :
    Advances r ⟨more, r.position + 1, r.furthest, r.log⟩ [.printWord] :=
  ⟨hrest, rfl, Nat.le_refl _⟩

theorem Advances.trans {between : Reader} {first second : List Token}
    (hfirst : Advances r between first) (hsecond : Advances between after second) :
    Advances r after (first ++ second) where
  rest := by rw [hfirst.rest, hsecond.rest, List.append_assoc]
  position := by rw [hsecond.position, hfirst.position, List.length_append, Nat.add_assoc]
  furthest_le := Nat.le_trans hfirst.furthest_le hsecond.furthest_le

theorem Within.note (h : Within tokens r) (event : Event) : Within tokens (r.note event) :=
  ⟨h.rest, h.position_le, h.furthest_le⟩

theorem Advances.notes {entered : Event} {read : List Token}
    (h : Advances (r.note entered) after read) (first second : Event) :
    Advances r ((after.note first).note second) read :=
  ⟨h.rest, h.position, h.furthest_le⟩

theorem Within.pastPrint (h : Within tokens r) {e : Expression} {rest : List Token}
    (hrest : r.rest = .printWord :: (e.tokens ++ rest)) :
    Within tokens (r.pastPrint e rest) ∧
      Advances r (r.pastPrint e rest) (Statement.print e).tokens := by
  have hprint := advances_print hrest
  have hbehind := h.of_advances hprint h.furthest_le
  exact ⟨hbehind.pastExpression rfl, hprint.trans (advances_pastExpression rfl)⟩

end Moves

theorem Atomic.of_cases {α : Type} {written : α → List Token} {rule : Reader → Option α × Reader}
    (h : ∀ {tokens r}, Within tokens r →
      (∃ phrase after, rule r = (some phrase, after) ∧ Within tokens after ∧
        Advances r after (written phrase)) ∨
      ∃ after, rule r = (none, after) ∧ Within tokens after ∧ Advances r after []) :
    Atomic written rule where
  finds := by
    intro tokens r phrase after hwithin hread
    rcases h hwithin with ⟨found, reached, hfound, hmoved⟩ | ⟨reached, hnone, -⟩
    · obtain ⟨hphrase, rfl⟩ := Prod.mk.inj (hfound.symm.trans hread)
      obtain rfl := Option.some.inj hphrase
      exact hmoved
    · cases (Prod.mk.inj (hnone.symm.trans hread)).1
  declines := by
    intro tokens r after hwithin hread
    rcases h hwithin with ⟨found, reached, hfound, -⟩ | ⟨reached, hnone, hmoved⟩
    · cases (Prod.mk.inj (hfound.symm.trans hread)).1
    · obtain ⟨-, rfl⟩ := Prod.mk.inj (hnone.symm.trans hread)
      exact hmoved

theorem operand_atomic : Atomic Expression.tokens operand where
  finds := by
    intro tokens r value after hwithin h
    obtain ⟨token, hrest, hvalue, hafter⟩ := operand_some h
    have hadvances : Advances r after value.tokens := by
      rw [(operandOf_eq_some_iff.mp hvalue).2, hafter]
      exact ⟨hrest, rfl, Nat.le_refl _⟩
    refine ⟨hwithin.of_advances hadvances ?_, hadvances⟩
    rw [hafter]
    exact hwithin.furthest_le
  declines := by
    intro tokens r after hwithin h
    obtain ⟨rfl, -⟩ := operand_none h
    exact ⟨hwithin.refusedAt hwithin.position_le, advances_refusedAt r r.position⟩

theorem expression_atomic : Atomic Expression.tokens expression := by
  refine .of_cases fun {tokens r} hwithin => ?_
  cases expression_cases r with
  | inl hfound =>
    obtain ⟨e, rest, hrest, hread⟩ := hfound
    exact .inl ⟨e, _, hread, hwithin.pastExpression hrest, advances_pastExpression hrest⟩
  | inr hnone =>
    exact .inr ⟨_, hnone, hwithin.refusedAt hwithin.position_le, advances_refusedAt r r.position⟩

theorem printStatement_atomic : Atomic Statement.tokens printStatement := by
  refine .of_cases fun {tokens r} hwithin => ?_
  cases printStatement_cases r with
  | inl hfound =>
    obtain ⟨e, rest, hrest, hread⟩ := hfound
    exact .inl ⟨.print e, _, hread, hwithin.pastPrint hrest⟩
  | inr hnone =>
    exact .inr ⟨_, hnone, hwithin.refusedAt hwithin.refusal_le, advances_refusedAt r r.refusal⟩

/-- The rule for statements notes events around the one for print statements. They move
neither the reader nor its furthest refusal. -/
theorem statement_atomic : Atomic Statement.tokens statement where
  finds := by
    intro tokens r s after hwithin h
    rw [statement_eq] at h
    obtain ⟨hs, rfl⟩ := Prod.mk.inj h
    obtain ⟨hbehind, hadvances⟩ :=
      printStatement_atomic.finds (hwithin.note (.entered r.position)) (Prod.ext hs rfl)
    exact ⟨(hbehind.note _).note _, hadvances.notes _ _⟩
  declines := by
    intro tokens r after hwithin h
    rw [statement_eq] at h
    obtain ⟨hnone, rfl⟩ := Prod.mk.inj h
    obtain ⟨hbehind, hadvances⟩ :=
      printStatement_atomic.declines (hwithin.note (.entered r.position)) (Prod.ext hnone rfl)
    exact ⟨(hbehind.note _).note _, hadvances.notes _ _⟩

/-! ## 3. The loop -/

theorem within_ofTokens (tokens : List Token) : Within tokens (ofTokens tokens) :=
  ⟨rfl, Nat.zero_le _, Nat.zero_le _⟩

theorem Settled.of_statement {r after : Reader} (h : r.Settled) {s : Statement}
    (hstatement : r.statement = (some s, after)) : after.Settled := by
  rcases statement_cases r with ⟨e, rest, he, hrest, hread⟩ | hnone
  · obtain ⟨-, rfl⟩ := Prod.mk.inj (hread.symm.trans hstatement)
    have hle : r.furthest ≤ r.position := by
      cases h with
      | inl hle => exact hle
      | inr hplus =>
        rw [hrest] at hplus
        cases hplus.2
    have hcanonical : (Statement.print e).Canonical := he
    by_cases hplus : rest.head? = some .plus
    · refine .inr ⟨furthest_pastStatement_of_plus hcanonical hle hplus, ?_⟩
      rw [rest_pastStatement hcanonical]
      exact hplus
    · refine .inl ?_
      rw [furthest_pastStatement hcanonical hplus, position_pastStatement hcanonical]
      exact Nat.le_trans hle (Nat.le_add_right _ _)
  · cases (Prod.mk.inj (hnone.symm.trans hstatement)).1

/-- Wherever the loop tries a statement, the reader is among the tokens and settled. -/
theorem Tries.settled {tokens : List Token} {r : Reader} (h : Tries tokens r) :
    Within tokens r ∧ r.Settled := by
  induction h with
  | first => exact ⟨within_ofTokens tokens, .inl (Nat.le_refl 0)⟩
  | again _ hstatement ih =>
    exact ⟨(statement_atomic.finds ih.1 hstatement).1, ih.2.of_statement hstatement⟩

/-- A refusal lies at most one token ahead, and then no statement begins here. -/
theorem Settled.ahead {r : Reader} (h : r.Settled) :
    r.furthest ≤ r.position + 1 ∧
      (r.furthest = r.position + 1 → r.rest.head? = some .plus ∧ r.statement.1 = none) := by
  cases h with
  | inl hle =>
    refine ⟨Nat.le_succ_of_le hle, fun hahead => ?_⟩
    rw [hahead] at hle
    exact absurd hle (Nat.not_succ_le_self _)
  | inr hplus =>
    refine ⟨Nat.le_of_eq hplus.1, fun _ => ⟨hplus.2, ?_⟩⟩
    rcases statement_cases r with ⟨e, rest, -, hrest, -⟩ | hnone
    · rw [hrest] at hplus
      cases hplus.2
    · rw [hnone]

theorem exists_last_try {tokens : List Token} (found : Array Statement) (r : Reader)
    (h : Tries tokens r) :
    ∃ last, Tries tokens last ∧ last.statement = (none, (r.statementsOnto found).2) := by
  fun_induction statementsOnto found r with
  | case1 found r s after hstatement _ ih => exact ih (.again h hstatement)
  | case2 found r after hstatement => exact ⟨r, h, hstatement⟩

/-! ## 4. Every list of tokens -/

/-- From every place of every list of tokens, whatever was refused before, each rule
either reads exactly the tokens of its phrase or goes back to where it began; the reader
stays among the tokens, and its furthest refusal stays there and does not move back.
Whenever the loop tries a statement, the furthest refusal is at most one token ahead of
the reader, and it is ahead of it only where a `+` stands, from which no statement is
read. The last of these tries ends the loop, within the tokens. -/
theorem rules_atomic :
    Atomic Expression.tokens operand ∧ Atomic Expression.tokens expression ∧
    Atomic Statement.tokens printStatement ∧ Atomic Statement.tokens statement ∧
    ∀ tokens,
      (∀ r, Tries tokens r → Within tokens r ∧ r.furthest ≤ r.position + 1 ∧
        (r.furthest = r.position + 1 →
          tokens[r.position]? = some .plus ∧ r.statement.1 = none)) ∧
      ∃ last, Tries tokens last ∧ last.statement = (none, (ofTokens tokens).statements.2) ∧
        Within tokens (ofTokens tokens).statements.2 := by
  refine ⟨operand_atomic, expression_atomic, printStatement_atomic, statement_atomic,
    fun tokens => ⟨fun r hr => ?_, ?_⟩⟩
  · obtain ⟨hwithin, hsettled⟩ := hr.settled
    obtain ⟨hle, hahead⟩ := hsettled.ahead
    refine ⟨hwithin, hle, fun heq => ?_⟩
    obtain ⟨hplus, hnone⟩ := hahead heq
    rw [hwithin.rest, List.head?_drop] at hplus
    exact ⟨hplus, hnone⟩
  · obtain ⟨last, hlast, hnone⟩ := exists_last_try #[] (ofTokens tokens) .first
    exact ⟨last, hlast, hnone, (statement_atomic.declines hlast.settled.1 hnone).1⟩

/-- Of `print a +` the reader has read a statement and refused the end, one token ahead of
the `+` at which it stands. -/
theorem rules_atomic_dangling_plus :
    let tokens : List Token := [.printWord, .identifier "a", .plus]
    ∃ r, Tries tokens r ∧ r.position = 2 ∧ r.furthest = 3 ∧ Within tokens r ∧
      tokens[r.position]? = some .plus ∧ r.statement.1 = none := by
  intro tokens
  have hread : (ofTokens tokens).statement =
      (some (.print (.reference "a")), (ofTokens tokens).statement.2) := by decide +kernel
  have hr : Tries tokens (ofTokens tokens).statement.2 := .again .first hread
  have hposition : (ofTokens tokens).statement.2.position = 2 := by decide +kernel
  have hfurthest : (ofTokens tokens).statement.2.furthest = 3 := by decide +kernel
  obtain ⟨hwithin, -, hahead⟩ := (rules_atomic.2.2.2.2 tokens).1 _ hr
  obtain ⟨hplus, hnone⟩ := hahead (by rw [hposition, hfurthest])
  exact ⟨_, hr, hposition, hfurthest, hwithin, hplus, hnone⟩

end Reader

end Scriptlet
