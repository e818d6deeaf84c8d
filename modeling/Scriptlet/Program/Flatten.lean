import Scriptlet.Program.Reader

/-!
# Programs written as tokens

The opposite direction of reading: the tokens that a program is written with. A list of tokens
says nothing about the grouping of a sum, so only one grouping can be read back, the one from the
right; programs grouped that way are called canonical.

Results:
1. `operandOf_eq_some_iff`: a token is an operand exactly when it is the token of a leaf.
-/

namespace Scriptlet

namespace Expression

/-- An expression that is not a sum. -/
def IsLeaf : Expression → Prop
  | .addition _ _ => False
  | _ => True

instance decidableIsLeaf : (e : Expression) → Decidable e.IsLeaf
  | .addition _ _ => .isFalse id
  | .number _ | .string _ | .reference _ => .isTrue trivial

/-- A sum that is grouped from the right, or a leaf. -/
def Canonical : Expression → Prop
  | .addition left right => left.IsLeaf ∧ right.Canonical
  | _ => True

instance decidableCanonical : (e : Expression) → Decidable e.Canonical
  | .addition left right =>
    have := decidableCanonical right
    inferInstanceAs (Decidable (left.IsLeaf ∧ right.Canonical))
  | .number _ | .string _ | .reference _ => .isTrue trivial

/-- The leaves of an expression from left to right. -/
def leaves : Expression → List Expression
  | .addition left right => left.leaves ++ right.leaves
  | e => [e]

/-- The tokens of an expression: those of its leaves, with `+` between neighbours. -/
def tokens : Expression → List Token
  | .number value => [.number value]
  | .string value => [.string value]
  | .reference name => [.identifier name]
  | .addition left right => left.tokens ++ .plus :: right.tokens

end Expression

theorem Reader.operandOf_eq_some_iff {token : Token} {e : Expression} :
    Reader.operandOf token = some e ↔ e.IsLeaf ∧ e.tokens = [token] := by
  constructor
  · intro h
    cases token <;> simp [Reader.operandOf] at h <;> subst h <;>
      exact ⟨trivial, rfl⟩
  · rintro ⟨hleaf, htokens⟩
    cases e with
    | addition => exact hleaf.elim
    | number | string | reference =>
      simp only [Expression.tokens, List.cons.injEq, and_true] at htokens
      subst htokens
      rfl

namespace Statement

def tokens : Statement → List Token
  | .declaration name value => .letWord :: .identifier name :: .assign :: value.tokens
  | .print value => .printWord :: value.tokens

/-- A print statement whose expression can be read back. -/
def Canonical : Statement → Prop
  | .declaration _ _ => False
  | .print value => value.Canonical

instance decidableCanonical : (s : Statement) → Decidable s.Canonical
  | .declaration _ _ => .isFalse id
  | .print value => inferInstanceAs (Decidable value.Canonical)

/-- The leaves of what a statement is about. -/
def leaves : Statement → List Expression
  | .declaration _ value => value.leaves
  | .print value => value.leaves

end Statement

namespace Program

/-- The tokens of a program, statement after statement. -/
def tokens (p : Program) : List Token := p.statements.flatMap Statement.tokens

/-- All statements can be read back. -/
def Canonical (p : Program) : Prop := ∀ s ∈ p.statements, s.Canonical

instance decidableCanonical (p : Program) : Decidable p.Canonical :=
  inferInstanceAs (Decidable (∀ s ∈ p.statements, s.Canonical))

/-- A strict reading accepts these tokens. -/
def Accepted (tokens : List Token) : Prop := ∃ p, ofTokens tokens .strict = .ok p

/-- These tokens are the beginning of some that a strict reading accepts. -/
def Viable (tokens : List Token) : Prop := ∃ more, Accepted (tokens ++ more)

end Program

example : (Program.mk [.print (.addition (.reference "a") (.reference "b"))]).tokens =
    [.printWord, .identifier "a", .plus, .identifier "b"] := by decide

end Scriptlet
