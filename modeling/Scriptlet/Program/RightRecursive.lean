import Scriptlet.Program.Reader

/-!
# The recursive rule for expressions

An expression is an operand, or an operand, a `+` and an expression. Read that way, the rule calls
itself for the right-hand side and goes back to the operand when there is none. `Reader.expression`
collects the operands first and groups them afterwards; this is the rule it stands for.
-/

namespace Scriptlet

namespace Reader

/-- A reader at a place of a list of tokens, with what it has noted. -/
def place (tokens : List Token) (position furthest : Nat) (log : List Event) : Reader :=
  ⟨tokens.drop position, position, furthest, log⟩

theorem rest_lt_behind {r after behind : Reader} {value : Expression} {token : Token}
    (hoperand : r.operand = (some value, after)) (hnext : after.next = (some token, behind)) :
    behind.rest.length < r.rest.length := by
  obtain ⟨operandToken, htoken, -⟩ := operand_some hoperand
  rw [htoken, rest_of_next hnext]
  simp only [List.length_cons]
  omega

/-- Reads an operand, and an expression behind a `+` if there is one. -/
def expressionByRule (r : Reader) : Option Expression × Reader :=
  match hfirst : r.operand with
  | (none, after) => (none, after)
  | (some first, after) =>
    match hplus : after.next with
    | (some .plus, behindPlus) =>
      have := rest_lt_behind hfirst hplus
      match behindPlus.expressionByRule with
      | (some right, last) => (some (.addition first right), last)
      | (none, last) => (some first, last.backTo after)
    | (_, behind) => (some first, behind.backTo after)
termination_by r.rest.length

end Reader

end Scriptlet
