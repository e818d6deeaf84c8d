import Scriptlet.Program.Flatten

/-!
# Every list of tokens begins with a longest program

A list of tokens divides into the tokens of a canonical program and a rest with
which that program cannot be carried on. Two tokens decide where the rest
begins: a `print` begins a statement, and a `+` behind a statement carries its
sum on, exactly when an operand stands behind them. This module says so without
the reader; `Reading` shows that the reader finds this division.

Results:
1. `exists_expression`: tokens that begin with an operand begin with a longest
   canonical expression.
2. `exists_program`: every list of tokens divides.
3. `Ends.take_append`: what ends a program is seen in the tokens up to the first
   that cannot be accepted, whatever follows them.
-/

namespace Scriptlet

/-! ## Definitions -/

/-- The first of these tokens is an operand. -/
def StartsOperand : List Token → Prop
  | [] => False
  | token :: _ => (Reader.operandOf token).isSome = true

instance decidableStartsOperand : (tokens : List Token) → Decidable (StartsOperand tokens)
  | [] => .isFalse id
  | token :: _ => inferInstanceAs (Decidable ((Reader.operandOf token).isSome = true))

/-- An expression ends before these tokens: they do not carry its sum on. -/
def EndsExpression (rest : List Token) : Prop :=
  ∀ more, rest = .plus :: more → ¬ StartsOperand more

namespace Program

/-- Behind the program `p`, only an operand can follow the token `token`. A `+`
asks for one when there is a statement whose sum it carries on. -/
def Awaits (p : Program) (token : Token) : Prop :=
  token = .printWord ∨ (token = .plus ∧ p.statements ≠ [])

instance decidableAwaits (p : Program) (token : Token) : Decidable (p.Awaits token) :=
  inferInstanceAs (Decidable (token = .printWord ∨ (token = .plus ∧ p.statements ≠ [])))

/-- The program `p` ends before these tokens: no statement begins there, and they
do not carry the sum of the last statement on. -/
def Ends (p : Program) (rest : List Token) : Prop :=
  ∀ token more, rest = token :: more → p.Awaits token → ¬ StartsOperand more

/-- By how many of the tokens behind it the program `p` can still be carried on,
when it ends before them. -/
def reach (p : Program) : List Token → Nat
  | [] => 0
  | token :: _ => if p.Awaits token then 1 else 0

end Program

/-! ## 1. Expressions -/

namespace DivisionLemmas

theorem startsOperand_cons {token : Token} {more : List Token} :
    StartsOperand (token :: more) ↔ ∃ value, Reader.operandOf token = some value :=
  Option.isSome_iff_exists

theorem endsExpression_of_head {rest : List Token} (h : rest.head? ≠ some .plus) :
    EndsExpression rest := by
  rintro more rfl
  exact absurd rfl h

end DivisionLemmas

open DivisionLemmas

/-- Tokens that begin with an operand begin with a longest canonical expression. -/
theorem exists_expression (tokens : List Token) (h : StartsOperand tokens) :
    ∃ e rest, Expression.Canonical e ∧ tokens = e.tokens ++ rest ∧ EndsExpression rest := by
  cases tokens with
  | nil => exact h.elim
  | cons token more =>
    obtain ⟨first, hfirst⟩ := startsOperand_cons.mp h
    obtain ⟨hleaf, htokens⟩ := Reader.operandOf_eq_some_iff.mp hfirst
    by_cases hplus : ∃ behind, more = .plus :: behind ∧ StartsOperand behind
    · obtain ⟨behind, rfl, hbehind⟩ := hplus
      obtain ⟨right, rest, hright, rfl, hends⟩ := exists_expression behind hbehind
      refine ⟨.addition first right, rest, ⟨hleaf, hright⟩, ?_, hends⟩
      rw [Expression.tokens, htokens]
      rfl
    · refine ⟨first, more, ?_, by rw [htokens]; rfl, ?_⟩
      · cases first with
        | addition => exact hleaf.elim
        | number | string | reference => trivial
      · exact fun behind hmore hstart => hplus ⟨behind, hmore, hstart⟩
termination_by tokens.length

theorem Expression.exists_append (e last : Expression) (he : e.Canonical) (hlast : last.IsLeaf) :
    ∃ longer, Expression.Canonical longer ∧ longer.tokens = e.tokens ++ .plus :: last.tokens := by
  have hcanonical : last.Canonical := by
    cases last with
    | addition => exact hlast.elim
    | number | string | reference => trivial
  induction e with
  | addition left right _ ih =>
    obtain ⟨longer, hlonger, htokens⟩ := ih he.2
    refine ⟨.addition left longer, ⟨he.1, hlonger⟩, ?_⟩
    simp only [Expression.tokens, htokens, List.append_assoc, List.cons_append]
  | number value => exact ⟨.addition (.number value) last, ⟨trivial, hcanonical⟩, rfl⟩
  | string value => exact ⟨.addition (.string value) last, ⟨trivial, hcanonical⟩, rfl⟩
  | reference name => exact ⟨.addition (.reference name) last, ⟨trivial, hcanonical⟩, rfl⟩

/-! ## 2. Programs -/

namespace Program

theorem tokens_cons (s : Statement) (statements : List Statement) :
    tokens ⟨s :: statements⟩ = s.tokens ++ tokens ⟨statements⟩ := rfl

theorem tokens_append (first second : List Statement) :
    tokens ⟨first ++ second⟩ = tokens ⟨first⟩ ++ tokens ⟨second⟩ :=
  List.flatMap_append

theorem canonical_cons {s : Statement} {statements : List Statement} :
    Canonical ⟨s :: statements⟩ ↔ s.Canonical ∧ Canonical ⟨statements⟩ :=
  List.forall_mem_cons

theorem ends_nil (p : Program) : p.Ends [] := by
  intro token more h
  exact absurd h (by simp)

theorem head_tokens_append {p : Program} (hp : p.Canonical) (rest : List Token) :
    (p.statements = [] ∧ p.tokens ++ rest = rest) ∨
      (p.tokens ++ rest).head? = some .printWord := by
  obtain ⟨statements⟩ := p
  cases statements with
  | nil => exact .inl ⟨rfl, rfl⟩
  | cons s statements =>
    cases s with
    | declaration => exact (canonical_cons.mp hp).1.elim
    | print => exact .inr rfl

theorem Ends.tail {s : Statement} {statements : List Statement} {rest : List Token}
    (h : Ends ⟨s :: statements⟩ rest) : Ends ⟨statements⟩ rest := by
  rintro token more hrest (rfl | ⟨rfl, -⟩)
  · exact h _ _ hrest (.inl rfl)
  · exact h _ _ hrest (.inr ⟨rfl, by simp⟩)

theorem Ends.head {s : Statement} {statements : List Statement} {rest : List Token}
    (h : Ends ⟨s :: statements⟩ rest) (hcanonical : Canonical ⟨statements⟩) :
    EndsExpression (tokens ⟨statements⟩ ++ rest) := by
  rcases head_tokens_append hcanonical rest with ⟨-, heq⟩ | hprint
  · rw [heq]
    exact fun more hrest => h _ _ hrest (.inr ⟨rfl, by simp⟩)
  · exact endsExpression_of_head (by rw [hprint]; simp)

/-- Every list of tokens is a canonical program and what that program ends before. -/
theorem exists_program (tokens : List Token) :
    ∃ p rest, Program.Canonical p ∧ tokens = p.tokens ++ rest ∧ p.Ends rest := by
  by_cases hprint : ∃ behind, tokens = .printWord :: behind ∧ StartsOperand behind
  · obtain ⟨behind, htokens, hbehind⟩ := hprint
    obtain ⟨e, afterFirst, he, hfirst, hends⟩ := exists_expression behind hbehind
    have hlt : afterFirst.length < tokens.length := by
      rw [htokens, hfirst, List.length_cons, List.length_append]
      exact Nat.lt_succ_of_le (Nat.le_add_left _ _)
    obtain ⟨⟨statements⟩, rest, hcanonical, hafter, hrest⟩ := exists_program afterFirst
    refine ⟨⟨.print e :: statements⟩, rest, canonical_cons.mpr ⟨he, hcanonical⟩, ?_, ?_⟩
    · rw [htokens, hfirst, hafter, tokens_cons, Statement.tokens, List.append_assoc,
        List.cons_append]
    · rintro token more rfl hawaits hstart
      rcases hawaits with rfl | ⟨rfl, -⟩
      · exact hrest _ _ rfl (.inl rfl) hstart
      · cases statements with
        | nil => exact hends _ hafter hstart
        | cons => exact hrest _ _ rfl (.inr ⟨rfl, by simp⟩) hstart
  · refine ⟨⟨[]⟩, tokens, by simp [Canonical], rfl, ?_⟩
    rintro token more rfl hawaits hstart
    rcases hawaits with rfl | ⟨-, hne⟩
    · exact hprint ⟨more, rfl, hstart⟩
    · exact hne rfl
termination_by tokens.length

/-! ## 3. What ends a program -/

theorem reach_le_length (p : Program) (rest : List Token) : p.reach rest ≤ rest.length := by
  cases rest with
  | nil => exact Nat.le_refl 0
  | cons token more =>
    rw [reach]
    split
    · exact Nat.succ_le_succ (Nat.zero_le _)
    · exact Nat.zero_le _

/-- A program still ends when its rest is cut behind the first token that cannot be
accepted and goes on in another way. -/
theorem Ends.take_append {p : Program} {rest : List Token} (h : p.Ends rest) {n : Nat}
    (hreach : p.reach rest < n) (hlength : n ≤ rest.length) (more : List Token) :
    p.Ends (rest.take n ++ more) := by
  cases rest with
  | nil => exact absurd (Nat.lt_of_lt_of_le hreach hlength) (Nat.not_lt_zero _)
  | cons token behind =>
    obtain ⟨n, rfl⟩ := Nat.exists_eq_succ_of_ne_zero (Nat.ne_of_gt (Nat.zero_lt_of_lt hreach))
    rintro found next hfound hawaits hstart
    rw [List.take_succ_cons, List.cons_append, List.cons.injEq] at hfound
    obtain ⟨rfl, rfl⟩ := hfound
    rw [reach, if_pos hawaits] at hreach
    refine h token behind rfl hawaits ?_
    cases behind with
    | nil => exact absurd hlength (Nat.not_le_of_lt hreach)
    | cons second behind =>
      obtain ⟨n, rfl⟩ := Nat.exists_eq_succ_of_ne_zero
        (Nat.ne_of_gt (Nat.lt_of_succ_lt_succ hreach))
      exact hstart

end Program

example : (⟨[.print (.reference "a")]⟩ : Program).Ends [.plus, .plus] := by
  intro token more h _
  obtain ⟨rfl, rfl⟩ := List.cons.inj h
  decide

end Scriptlet
