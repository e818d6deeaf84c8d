import Scriptlet.Program.RightRecursive

/-!
# The loop for sums and the rule it stands for

The reader takes the operands of a sum in a loop and groups them afterwards. The
rule for expressions calls itself for the right-hand side and backs out of a `+`
that nothing follows. Both read the same expression, stop at the same token, have
refused the same tokens and have noted the same events: what the loop has
collected is what the rule still has to wrap around the right-hand side.

Results:
1. `expressionByRule_of_none`, `expressionByRule_of_some`: the rule, one call deep.
2. `sum_eq_sumByRule`: the loop groups its operands around what the rule reads.
3. `expression_eq_expressionByRule`: the two readings are the same.
-/

namespace Scriptlet

namespace Reader

/-- What the rule reads behind an operand: a `+` and an expression, which becomes
the right-hand side, or nothing. -/
def sumByRule (first : Expression) (r : Reader) : Expression × Reader :=
  match r.next with
  | (some .plus, behindPlus) =>
    match behindPlus.expressionByRule with
    | (some right, last) => (.addition first right, last)
    | (none, last) => (first, last.backTo r)
  | (_, behind) => (first, behind.backTo r)

/-! ## 1. The rule, one call deep -/

theorem sumByRule_of_some {r behindPlus last : Reader} {right : Expression}
    (hplus : r.next = (some .plus, behindPlus))
    (hright : behindPlus.expressionByRule = (some right, last)) (first : Expression) :
    r.sumByRule first = (.addition first right, last) := by
  rw [sumByRule, hplus]
  simp only [hright]

theorem sumByRule_of_none {r behindPlus last : Reader}
    (hplus : r.next = (some .plus, behindPlus))
    (hright : behindPlus.expressionByRule = (none, last)) (first : Expression) :
    r.sumByRule first = (first, last.backTo r) := by
  rw [sumByRule, hplus]
  simp only [hright]

theorem sumByRule_of_ne {r behind : Reader} {found : Option Token} (hfound : found ≠ some .plus)
    (hnext : r.next = (found, behind)) (first : Expression) :
    r.sumByRule first = (first, behind.backTo r) := by
  rw [sumByRule, hnext]
  split
  · rename_i behindPlus hplus
    exact absurd (Prod.mk.inj hplus).1 hfound
  · rename_i token after hother hafter
    rw [(Prod.mk.inj hafter).2]

theorem expressionByRule_of_none {r after : Reader} (h : r.operand = (none, after)) :
    r.expressionByRule = (none, after) := by
  rw [expressionByRule]
  split
  · rename_i behind hoperand
    rw [(Prod.mk.inj (h.symm.trans hoperand)).2]
  · rename_i first behind hoperand
    cases (Prod.mk.inj (h.symm.trans hoperand)).1

theorem expressionByRule_of_some {r after : Reader} {first : Expression}
    (h : r.operand = (some first, after)) :
    r.expressionByRule = (some (after.sumByRule first).1, (after.sumByRule first).2) := by
  rw [expressionByRule]
  split
  · rename_i behind hoperand
    cases (Prod.mk.inj (h.symm.trans hoperand)).1
  · rename_i value behind hoperand
    obtain ⟨hvalue, rfl⟩ := Prod.mk.inj (h.symm.trans hoperand)
    obtain rfl := Option.some.inj hvalue
    split
    · rename_i behindPlus hplus
      dsimp only
      split
      · rename_i right last hright
        rw [sumByRule_of_some hplus hright]
      · rename_i last hright
        rw [sumByRule_of_none hplus hright]
    · rename_i found behindOther hother hnext
      rw [sumByRule_of_ne hother hnext]

/-! ## 2. The loop -/

/-- The loop groups the operands before `last` around what the rule reads behind
`last`. The induction follows the loop: one more operand is one more call. -/
theorem sum_eq_sumByRule (earlier : List Expression) (last : Expression) (r : Reader) :
    r.sum earlier last = (grouped earlier (r.sumByRule last).1, (r.sumByRule last).2) := by
  fun_induction sum earlier last r with
  | case1 earlier last r behindPlus hplus value after hoperand _ ih =>
    rw [ih, sumByRule_of_some hplus (expressionByRule_of_some hoperand)]
    rfl
  | case2 earlier last r behindPlus hplus after hoperand =>
    rw [sumByRule_of_none hplus (expressionByRule_of_none hoperand)]
  | case3 earlier last r found after hother hnext => rw [sumByRule_of_ne hother hnext]

/-! ## 3. The two readings -/

/-- From every place of every list of tokens, and whatever was refused and noted
before, the loop reads what the recursive rule reads, and leaves the reader as the
rule leaves it: at the same place, with the same furthest refusal and the same
events. -/
theorem expression_eq_expressionByRule (tokens : List Token) (position furthest : Nat)
    (log : List Event) :
    (place tokens position furthest log).expression =
      (place tokens position furthest log).expressionByRule := by
  rcases hoperand : (place tokens position furthest log).operand with ⟨found, after⟩
  cases found with
  | none => rw [expression, hoperand, expressionByRule_of_none hoperand]
  | some first =>
    rw [expression, hoperand, expressionByRule_of_some hoperand]
    dsimp only
    rw [sum_eq_sumByRule]
    rfl

-- A `+` that nothing follows: the rule goes back to the operand before it, and has
-- refused the end of the tokens.
example : (place [.identifier "a", .plus] 0 0 []).expressionByRule =
    (some (.reference "a"), ⟨[.plus], 1, 2, [.operand (.reference "a") 0]⟩) := by
  decide +kernel

end Reader

end Scriptlet
