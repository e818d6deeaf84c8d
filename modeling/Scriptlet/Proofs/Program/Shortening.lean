import Scriptlet.Proofs.Program.Acceptance

/-!
# Tokens that are cut short

The tokens of a script may end anywhere: inside a statement, behind a `print`, or
on either side of a `+`. Whatever program stands in front of the cut, its
statements are those of the whole, but for the last, whose sum may have been
longer. So two divisions of one list of tokens are compared, of which only the
longer one is known to end where its program does.

Results:
1. `Expression.leaves_prefix`: an expression in front of a cut has the first
   operands of the expression that stands there.
2. `Expression.eq_of_tokens_append`: two expressions that both end are the same.
3. `cutShort_of_tokens`: the statements in front of a cut.
-/

namespace Scriptlet

/-! ## Definitions -/

/-- Some first statements of others, the last of which may be cut: it prints the
first operands of the statement in its place. -/
structure CutShort (short whole : List Statement) : Prop where
  length_le : short.length ≤ whole.length
  same : ∀ i, i + 1 < short.length → short[i]? = whole[i]?
  last : ∀ s, short.getLast? = some s → ∃ e t, s = .print e ∧
    whole[short.length - 1]? = some t ∧ e.leaves <+: t.leaves

namespace CutShort

theorem nil (whole : List Statement) : CutShort [] whole where
  length_le := Nat.zero_le _
  same := fun i h => absurd h (Nat.not_lt_zero _)
  last := fun s h => by cases h

theorem single {e : Expression} {t : Statement} (h : e.leaves <+: t.leaves)
    (whole : List Statement) : CutShort [.print e] (t :: whole) where
  length_le := Nat.succ_le_succ (Nat.zero_le _)
  same := fun i hi => absurd (Nat.lt_of_succ_lt_succ hi) (Nat.not_lt_zero _)
  last := by
    rintro s hs
    obtain rfl := Option.some.inj hs
    exact ⟨e, t, rfl, rfl, h⟩

theorem cons {short whole : List Statement} (h : CutShort short whole) (hne : short ≠ [])
    (s : Statement) : CutShort (s :: short) (s :: whole) where
  length_le := Nat.succ_le_succ h.length_le
  same := by
    rintro (_ | i) hi
    · rfl
    · exact h.same i (Nat.lt_of_succ_lt_succ hi)
  last := by
    intro t ht
    obtain ⟨next, others, rfl⟩ := List.exists_cons_of_ne_nil hne
    exact h.last t ht

end CutShort

/-! ## 1. Expressions in front of a cut -/

namespace Expression

open Reader (exists_token_of_isLeaf)

theorem leaves_of_isLeaf {e : Expression} (h : e.IsLeaf) : e.leaves = [e] := by
  cases e with
  | addition => exact h.elim
  | number | string | reference => rfl

theorem exists_first_leaf {e : Expression} (he : e.Canonical) :
    ∃ token first more others, e.tokens = token :: more ∧
      Reader.operandOf token = some first ∧ e.leaves = first :: others := by
  cases e with
  | addition left right =>
    obtain ⟨token, htoken, hvalue⟩ := exists_token_of_isLeaf he.1
    exact ⟨token, left, _, right.leaves, by rw [tokens, htoken]; rfl, hvalue,
      by rw [leaves, leaves_of_isLeaf he.1]; rfl⟩
  | number | string | reference => exact ⟨_, _, _, [], rfl, rfl, rfl⟩

theorem startsOperand_tokens {e : Expression} (he : e.Canonical) (behind : List Token) :
    StartsOperand (e.tokens ++ behind) := by
  obtain ⟨token, first, more, -, htokens, hfirst, -⟩ := exists_first_leaf he
  rw [htokens]
  exact DivisionLemmas.startsOperand_cons.mpr ⟨first, hfirst⟩

/-- A leaf in front of a cut is the first leaf of the expression that stands there. -/
theorem leaves_prefix_of_isLeaf {e f : Expression} (he : e.IsLeaf) (hf : f.Canonical)
    {rest behind : List Token} (h : e.tokens ++ behind = f.tokens ++ rest) :
    e.leaves <+: f.leaves := by
  obtain ⟨token, htoken, hvalue⟩ := exists_token_of_isLeaf he
  obtain ⟨token', first, more, others, htokens, hfirst, hleaves⟩ := exists_first_leaf hf
  rw [htoken, htokens] at h
  obtain rfl : token = token' := (List.cons.inj h).1
  obtain rfl : e = first := Option.some.inj (hvalue.symm.trans hfirst)
  rw [leaves_of_isLeaf he, hleaves]
  exact ⟨others, rfl⟩

/-- An expression in front of a cut has the first leaves of the expression that
stands there and ends before `rest`. -/
theorem leaves_prefix {e f : Expression} (he : e.Canonical) (hf : f.Canonical)
    {rest behind : List Token} (hends : EndsExpression rest)
    (h : e.tokens ++ behind = f.tokens ++ rest) : e.leaves <+: f.leaves := by
  induction e generalizing f with
  | addition left right _ ih =>
    obtain ⟨hleft, hright⟩ := he
    obtain ⟨token, htoken, hvalue⟩ := exists_token_of_isLeaf hleft
    rw [tokens, htoken] at h
    by_cases hleaf : f.IsLeaf
    · obtain ⟨token', htoken', -⟩ := exists_token_of_isLeaf hleaf
      rw [htoken'] at h
      have hplus : rest = .plus :: (right.tokens ++ behind) := (List.cons.inj h).2.symm
      exact absurd (startsOperand_tokens hright behind) (hends _ hplus)
    · cases f with
      | addition left' right' =>
        obtain ⟨hleft', hright'⟩ := hf
        obtain ⟨token', htoken', hvalue'⟩ := exists_token_of_isLeaf hleft'
        rw [tokens, htoken'] at h
        obtain ⟨hsame, hmore⟩ := List.cons.inj h
        obtain rfl : left = left' := Option.some.inj (hvalue.symm.trans (hsame ▸ hvalue'))
        exact (List.prefix_append_right_inj _).mpr (ih hright hright' (List.cons.inj hmore).2)
      | number | string | reference => exact absurd trivial hleaf
  | number | string | reference => exact leaves_prefix_of_isLeaf trivial hf h

/-- Two expressions in front of one another's ends are the same: each is what is
read there. -/
theorem eq_of_tokens_append {e f : Expression} (he : e.Canonical) (hf : f.Canonical)
    {rest behind : List Token} (hbehind : EndsExpression behind) (hends : EndsExpression rest)
    (h : e.tokens ++ behind = f.tokens ++ rest) : e = f ∧ behind = rest := by
  have hleft := Reader.expression_of_tokens he hbehind
    (r := Reader.ofTokens (e.tokens ++ behind)) rfl
  rw [Reader.expression_of_tokens hf hends (r := Reader.ofTokens (e.tokens ++ behind)) h] at hleft
  obtain ⟨hvalue, hplace⟩ := Prod.mk.inj hleft
  exact ⟨(Option.some.inj hvalue).symm, (congrArg Reader.rest hplace).symm⟩

end Expression

/-! ## 2. Programs in front of a cut -/

namespace Program

/-- The program `q` in front of a cut is cut short from the program that stands there
and ends before `rest`. The induction is on the statements in front of the cut. -/
theorem cutShort_of_tokens {p q : Program} (hp : p.Canonical) (hq : q.Canonical)
    {rest behind : List Token} (hends : p.Ends rest) (h : q.tokens ++ behind = p.tokens ++ rest) :
    CutShort q.statements p.statements := by
  obtain ⟨whole⟩ := p
  obtain ⟨short⟩ := q
  show CutShort short whole
  induction short generalizing whole with
  | nil => exact .nil whole
  | cons s short ih =>
    obtain ⟨hs, hshort⟩ := canonical_cons.mp hq
    cases s with
    | declaration => exact hs.elim
    | print e =>
      rw [tokens_cons, Statement.tokens, List.append_assoc] at h
      cases whole with
      | nil =>
        exact absurd (Expression.startsOperand_tokens hs _) (hends _ _ h.symm (.inl rfl))
      | cons t whole =>
        obtain ⟨ht, hwhole⟩ := canonical_cons.mp hp
        cases t with
        | declaration => exact ht.elim
        | print f =>
          rw [tokens_cons, Statement.tokens, List.append_assoc] at h
          have hsum := (List.cons.inj h).2
          have hsumEnds := hends.head hwhole
          rcases head_tokens_append hshort behind with ⟨hnil, -⟩ | hprint
          · obtain rfl : short = [] := hnil
            exact .single (Expression.leaves_prefix hs ht hsumEnds hsum) whole
          -- Another statement begins behind this one, so its sum ends there.
          · obtain ⟨rfl, hothers⟩ := Expression.eq_of_tokens_append hs ht
              (DivisionLemmas.endsExpression_of_head (by rw [hprint]; simp)) hsumEnds hsum
            cases short with
            | nil => exact .single (List.prefix_refl _) whole
            | cons next short => exact .cons (ih whole hwhole hends.tail hshort hothers) (by simp) _

theorem exists_cutShort (tokens : List Token) (n : Nat) :
    ∃ p q, ofTokens tokens .lenient = .ok p ∧ ofTokens (tokens.take n) .lenient = .ok q ∧
      CutShort q.statements p.statements := by
  obtain ⟨p, rest, hp, hwhole, hends⟩ := exists_program tokens
  obtain ⟨q, behind, hq, hshort, hcut⟩ := exists_program (tokens.take n)
  have hsame : q.tokens ++ (behind ++ tokens.drop n) = p.tokens ++ rest := by
    rw [← List.append_assoc, ← hshort, List.take_append_drop, hwhole]
  refine ⟨p, q, ?_, ?_, cutShort_of_tokens hp hq hends hsame⟩
  · rw [hwhole, ofTokens_eq hp hends, if_pos (.inr rfl)]
  · rw [hshort, ofTokens_eq hq hcut, if_pos (.inr rfl)]

end Program

end Scriptlet
