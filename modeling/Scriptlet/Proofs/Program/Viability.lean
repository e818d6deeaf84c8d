import Scriptlet.Proofs.Program.Acceptance

/-!
# Where tokens stop being a beginning of a program

A list of tokens is viable when more tokens can make it an accepted one. The
error of a strict reading is at the first token that ends the viability of what
stands before it, and its kind says whether what stands before it is complete.

Results:
1. `viable_take_iff`: the viable beginnings of a list whose division is known.
2. `strict_error_exact`: the result of a strict reading, from the length of the
   longest viable beginning and from whether that beginning is accepted.
-/

namespace Scriptlet

namespace Program

/-- The first `n` of these tokens are viable, and no more of them are. -/
def LongestViable (tokens : List Token) (n : Nat) : Prop :=
  n ≤ tokens.length ∧ Viable (tokens.take n) ∧
    ∀ k ≤ tokens.length, Viable (tokens.take k) → k ≤ n

/-! ## 1. Viable beginnings -/

namespace ViabilityLemmas

theorem not_accepted_of_ends {p : Program} (hp : p.Canonical) {rest : List Token}
    (hends : p.Ends rest) (hrest : rest ≠ []) : ¬ Accepted (p.tokens ++ rest) := by
  rintro ⟨q, hq⟩
  rw [ofTokens_eq hp hends, if_neg (by simpa using hrest)] at hq
  exact absurd hq (by simp)

theorem viable_of_prefix {tokens longer : List Token} (h : tokens <+: longer)
    (hlonger : Viable longer) : Viable tokens := by
  obtain ⟨between, rfl⟩ := h
  obtain ⟨more, hmore⟩ := hlonger
  exact ⟨between ++ more, by rwa [← List.append_assoc]⟩

theorem canonical_append {first second : List Statement} :
    Canonical ⟨first ++ second⟩ ↔ Canonical ⟨first⟩ ∧ Canonical ⟨second⟩ :=
  List.forall_mem_append

/-- An awaited token is viable behind a program: any operand completes it. -/
theorem viable_of_awaits {p : Program} (hp : p.Canonical) {token : Token}
    (h : p.Awaits token) : Viable (p.tokens ++ [token]) := by
  obtain ⟨statements⟩ := p
  let operand : Expression := .reference "x"
  refine ⟨operand.tokens, accepted_iff.mpr ?_⟩
  rcases h with rfl | ⟨rfl, hne⟩
  · refine ⟨⟨statements ++ [.print operand]⟩, canonical_append.mpr ⟨hp, ?_⟩, ?_⟩
    · exact canonical_cons.mpr ⟨trivial, List.forall_mem_nil _⟩
    · rw [tokens_append, List.append_assoc]
      rfl
  · obtain ⟨earlier, last, rfl⟩ : ∃ earlier last, statements = earlier ++ [last] :=
      ⟨_, _, (List.dropLast_concat_getLast hne).symm⟩
    obtain ⟨hearlier, hlast⟩ := canonical_append.mp hp
    have hlast : last.Canonical := (canonical_cons.mp hlast).1
    cases last with
    | declaration => exact hlast.elim
    | print e =>
      obtain ⟨longer, hlonger, htokens⟩ :=
        Expression.exists_append e operand hlast trivial
      refine ⟨⟨earlier ++ [.print longer]⟩, canonical_append.mpr ⟨hearlier, ?_⟩, ?_⟩
      · exact canonical_cons.mpr ⟨hlonger, List.forall_mem_nil _⟩
      · have hprint :
            tokens ⟨[.print longer]⟩ = tokens ⟨[.print e]⟩ ++ .plus :: operand.tokens := by
          simp only [tokens_cons, Statement.tokens, htokens, List.append_assoc, List.cons_append]
          rfl
        rw [tokens_append, tokens_append, hprint, List.append_assoc, List.append_assoc]
        rfl

end ViabilityLemmas

open ViabilityLemmas

/-- The viable beginnings of a list are those that end within the tokens by which
its program can be carried on. -/
theorem viable_take_iff {p : Program} (hp : p.Canonical) {rest : List Token}
    (hends : p.Ends rest) {n : Nat} (hn : n ≤ (p.tokens ++ rest).length) :
    Viable ((p.tokens ++ rest).take n) ↔ n ≤ p.tokens.length + p.reach rest := by
  constructor
  · rintro ⟨more, hmore⟩
    refine Nat.le_of_not_lt fun hlong => ?_
    have hsplit : (p.tokens ++ rest).take n = p.tokens ++ rest.take (n - p.tokens.length) := by
      rw [List.take_append, List.take_of_length_le (by omega)]
    rw [List.length_append] at hn
    rw [hsplit, List.append_assoc] at hmore
    refine not_accepted_of_ends hp (hends.take_append (n := n - p.tokens.length)
      (by omega) (by omega) more) ?_ hmore
    have hrest : (rest.take (n - p.tokens.length)).length ≠ 0 := by
      rw [List.length_take]
      omega
    intro hnil
    exact hrest (congrArg List.length (List.append_eq_nil_iff.mp hnil).1)
  · intro hshort
    have hwhole : Viable (p.tokens ++ rest.take (p.reach rest)) := by
      cases rest with
      | nil => exact ⟨[], accepted_iff.mpr ⟨p, hp, by simp⟩⟩
      | cons token more =>
        by_cases hawaits : p.Awaits token
        · rw [AcceptanceLemmas.reach_of_awaits hawaits]
          exact viable_of_awaits hp hawaits
        · rw [AcceptanceLemmas.reach_of_not_awaits hawaits]
          exact ⟨[], accepted_iff.mpr ⟨p, hp, by simp⟩⟩
    refine viable_of_prefix ?_ hwhole
    have htake : (p.tokens ++ rest).take (p.tokens.length + p.reach rest) =
        p.tokens ++ rest.take (p.reach rest) := List.take_length_add_append _
    rw [← htake]
    exact List.take_prefix_take_left hshort

theorem longestViable_of_ends {p : Program} (hp : p.Canonical) {rest : List Token}
    (hends : p.Ends rest) :
    LongestViable (p.tokens ++ rest) (p.tokens.length + p.reach rest) := by
  have hle : p.tokens.length + p.reach rest ≤ (p.tokens ++ rest).length := by
    rw [List.length_append]
    exact Nat.add_le_add_left (reach_le_length p rest) _
  exact ⟨hle, (viable_take_iff hp hends hle).mpr (Nat.le_refl _),
    fun k hk hviable => (viable_take_iff hp hends hk).mp hviable⟩

/-! ## 2. The result of a strict reading -/

/-- With `j` the length of the longest viable beginning, a strict reading gives a
program when that beginning is the whole list and accepted, an unexpected end
when it is the whole list and not accepted, an unexpected token at `j` when
tokens are left and it is not accepted, and trailing input from `j` when tokens
are left and it is accepted. Each of these happens in no other case. -/
theorem strict_error_exact (tokens : List Token) :
    ∃ j, LongestViable tokens j ∧
      ((∃ p, ofTokens tokens .strict = .ok p) ↔ j = tokens.length ∧ Accepted tokens) ∧
      (∀ n, ofTokens tokens .strict = .error (.unexpectedEnd n) ↔
        n = tokens.length ∧ j = tokens.length ∧ ¬ Accepted tokens) ∧
      (∀ token n, ofTokens tokens .strict = .error (.unexpectedToken token n) ↔
        n = j ∧ tokens[j]? = some token ∧ ¬ Accepted (tokens.take j)) ∧
      (∀ remaining, ofTokens tokens .strict = .error (.trailingInput remaining) ↔
        remaining = tokens.drop j ∧ j < tokens.length ∧ Accepted (tokens.take j)) := by
  obtain ⟨p, rest, hp, rfl, hends⟩ := exists_program tokens
  refine ⟨_, longestViable_of_ends hp hends, ?_⟩
  have hresult := ofTokens_eq hp hends .strict
  have hwhole : Accepted p.tokens := accepted_iff.mpr ⟨p, hp, rfl⟩
  cases rest with
  | nil =>
    rw [if_pos (.inl rfl)] at hresult
    rw [hresult]
    simp [reach, hwhole]
  | cons token more =>
    rw [if_neg (by simp)] at hresult
    have hrefused : ¬ Accepted (p.tokens ++ token :: more) :=
      not_accepted_of_ends hp hends (by simp)
    by_cases hawaits : p.Awaits token
    · have hreach : p.reach (token :: more) = 1 := AcceptanceLemmas.reach_of_awaits hawaits more
      -- The awaited token alone is not enough.
      have hbegun : ¬ Accepted (p.tokens ++ [token]) := by
        refine not_accepted_of_ends hp ?_ (by simp)
        rintro found behind hfound - hstart
        obtain ⟨-, rfl⟩ := List.cons.inj hfound
        exact hstart
      rw [hresult, hreach, stopError, hreach, if_neg Nat.one_ne_zero]
      cases more with
      | nil =>
        simp [hrefused, eq_comm (a := p.tokens.length + 1)]
      | cons second more =>
        have htake : (p.tokens ++ token :: second :: more).take (p.tokens.length + 1) =
            p.tokens ++ [token] := List.take_length_add_append 1
        simp [hrefused, htake, hbegun, eq_comm (a := p.tokens.length + 1), and_comm]
    · have hreach : p.reach (token :: more) = 0 := AcceptanceLemmas.reach_of_not_awaits hawaits more
      rw [hresult, hreach, stopError, hreach, if_pos rfl]
      simp [hwhole, eq_comm (a := token :: more)]

end Program

end Scriptlet
