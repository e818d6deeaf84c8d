import Scriptlet.Proofs.Program.Acceptance

/-!
# Programs read one behind the other

What a strict reading accepts leaves no trace in what is read behind it: the
furthest refusal that the reader carries along never lies ahead of the place where
an accepted program ends, unless a `+` stands there. So tokens behind an accepted
list are read as they would be on their own, and a place in an error counts the
accepted tokens too.

Results:
1. `Ends.append`, `reach_append`: where the second program ends, both together do.
2. `ofTokens_append`: the result of reading both.
3. `accepted_tokens_inert`: the result from what is read behind the accepted tokens.
-/

namespace Scriptlet

/-- The error when as many tokens stand before those that were read. Tokens that are
left over are the same. -/
def ParseError.movedBy (e : ParseError) (before : Nat) : ParseError :=
  match e with
  | .unexpectedToken token position => .unexpectedToken token (position + before)
  | .unexpectedEnd position => .unexpectedEnd (position + before)
  | .trailingInput remaining => .trailingInput remaining

namespace Program

variable {p q : Program} {rest : List Token}

/-! ## 1. The end of two programs -/

namespace ConcatenationLemmas

theorem statements_eq_nil (hp : p.Canonical) (h : p.tokens = []) : p.statements = [] := by
  rcases head_tokens_append hp [] with ⟨hnil, -⟩ | hprint
  · exact hnil
  · rw [h] at hprint
    cases hprint

/-- A `+` is awaited behind two programs when it is behind the second, unless it stands
between them. -/
theorem awaits_append_iff {token : Token} {more : List Token}
    (hplus : p.statements = [] ∨ (q.tokens ++ token :: more).head? ≠ some .plus) :
    Awaits ⟨p.statements ++ q.statements⟩ token ↔ q.Awaits token := by
  refine ⟨?_, Or.imp_right (And.imp_right fun hq => ?_)⟩
  · rintro (rfl | ⟨rfl, hne⟩)
    · exact .inl rfl
    · refine .inr ⟨rfl, fun hnil => ?_⟩
      have htokens : q.tokens = [] := by rw [tokens, hnil, List.flatMap_nil]
      rcases hplus with hp | hhead
      · exact hne (by rw [hp, hnil]; rfl)
      · exact hhead (by rw [htokens]; rfl)
  · exact List.append_ne_nil_of_right_ne_nil p.statements hq

end ConcatenationLemmas

open ConcatenationLemmas

theorem Ends.append (hq : q.Ends rest)
    (hplus : p.statements = [] ∨ (q.tokens ++ rest).head? ≠ some .plus) :
    Ends ⟨p.statements ++ q.statements⟩ rest := by
  rintro token more rfl hawaits
  exact hq token more rfl ((awaits_append_iff hplus).mp hawaits)

theorem reach_append (hplus : p.statements = [] ∨ (q.tokens ++ rest).head? ≠ some .plus) :
    reach ⟨p.statements ++ q.statements⟩ rest = q.reach rest := by
  cases rest with
  | nil => rfl
  | cons token more =>
    unfold reach
    simp only [awaits_append_iff hplus]

theorem stopError_append (hplus : p.statements = [] ∨ (q.tokens ++ rest).head? ≠ some .plus) :
    stopError ⟨p.statements ++ q.statements⟩ rest =
      (q.stopError rest).movedBy p.tokens.length := by
  have hlength : tokens ⟨p.statements ++ q.statements⟩ = p.tokens ++ q.tokens :=
    tokens_append p.statements q.statements
  rw [stopError, stopError, reach_append hplus, hlength, List.length_append]
  split
  · rfl
  · have hplace (m n : Nat) : m + n + 1 = n + 1 + m := by omega
    rw [hplace]
    cases rest[1]? <;> rfl

/-! ## 2. Reading two programs -/

/-- Tokens behind those of a program are read as on their own. -/
theorem ofTokens_append (hp : p.Canonical) {behind : List Token}
    (hplus : p.tokens = [] ∨ behind.head? ≠ some .plus) (errors : Strictness) :
    ofTokens (p.tokens ++ behind) errors =
      match ofTokens behind errors with
      | .ok q => .ok ⟨p.statements ++ q.statements⟩
      | .error e => .error (e.movedBy p.tokens.length) := by
  obtain ⟨q, rest, hq, rfl, hends⟩ := exists_program behind
  have hplus := hplus.imp_left (statements_eq_nil hp)
  have hboth : Canonical ⟨p.statements ++ q.statements⟩ := List.forall_mem_append.mpr ⟨hp, hq⟩
  have hread := ofTokens_eq hboth (hends.append hplus) errors
  have htokens : tokens ⟨p.statements ++ q.statements⟩ = p.tokens ++ q.tokens :=
    tokens_append p.statements q.statements
  rw [htokens, List.append_assoc] at hread
  rw [hread, ofTokens_eq hq hends, stopError_append hplus]
  split <;> rfl

/-! ## 3. What is read behind accepted tokens -/

/-- Behind tokens that a strict reading accepts, any others that do not begin with a
`+` are read as on their own. Both modes answer the statements of both; a strict
reading answers the error of the others, if there is one, whose place then counts the
accepted tokens too and whose tokens left over are the same. -/
theorem accepted_tokens_inert {a b : List Token} {pa : Program}
    (ha : ofTokens a .strict = .ok pa) (hplus : a = [] ∨ b.head? ≠ some .plus) :
    (ofTokens (a ++ b) .strict =
      match ofTokens b .strict with
      | .ok pb => .ok ⟨pa.statements ++ pb.statements⟩
      | .error e => .error (e.movedBy a.length)) ∧
    ∃ pb, ofTokens b .lenient = .ok pb ∧
      ofTokens (a ++ b) .lenient = .ok ⟨pa.statements ++ pb.statements⟩ := by
  obtain ⟨hpa, rfl⟩ := (ofTokens_strict_iff a pa).mp ha
  refine ⟨ofTokens_append hpa hplus .strict, ?_⟩
  obtain ⟨pb, rest, hpb, hb, hends⟩ := exists_program b
  have hlenient : ofTokens b .lenient = .ok pb := by
    rw [hb, ofTokens_eq hpb hends, if_pos (.inr rfl)]
  have hread := ofTokens_append hpa hplus .lenient
  rw [hlenient] at hread
  exact ⟨pb, hlenient, hread⟩

/-- Behind `print a`, the tokens `print b print +` fail at the `+`, the sixth of all. -/
theorem accepted_tokens_inert_plus :
    let a : List Token := [.printWord, .identifier "a"]
    let b : List Token := [.printWord, .identifier "b", .printWord, .plus]
    ofTokens a .strict = .ok ⟨[.print (.reference "a")]⟩ ∧ b.head? ≠ some .plus ∧
      ofTokens (a ++ b) .strict = .error (.unexpectedToken .plus 5) ∧
      ofTokens (a ++ b) .lenient = .ok ⟨[.print (.reference "a"), .print (.reference "b")]⟩ := by
  intro a b
  have ha : ofTokens a .strict = .ok ⟨[.print (.reference "a")]⟩ :=
    (ofTokens_strict_iff a _).mpr ⟨by decide, rfl⟩
  have hhead : b.head? ≠ some .plus := by decide
  obtain ⟨hstrict, pb, hpb, hlenient⟩ := accepted_tokens_inert ha (.inr hhead)
  have hprogram : Canonical ⟨[.print (.reference "b")]⟩ := by decide
  have hends : Ends ⟨[.print (.reference "b")]⟩ [.printWord, .plus] := by
    rintro token more ⟨⟩ -
    decide
  have herror : ofTokens b .strict = .error (.unexpectedToken .plus 3) :=
    ofTokens_eq hprogram hends .strict
  have hread : ofTokens b .lenient = .ok ⟨[.print (.reference "b")]⟩ :=
    ofTokens_eq hprogram hends .lenient
  obtain rfl := Except.ok.inj (hpb.symm.trans hread)
  rw [herror] at hstrict
  exact ⟨ha, hhead, hstrict, hlenient⟩

end Program

end Scriptlet
