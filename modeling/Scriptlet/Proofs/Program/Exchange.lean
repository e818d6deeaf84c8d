import Scriptlet.Proofs.Program.Acceptance

/-!
# Programs with one string exchanged

The reader does not look at what a string holds. So if one string among the tokens
is exchanged for another, the reading goes the same way: to programs that differ in
the leaf of that token at most, or to the same error, in which only tokens that are
left over can show the exchange.

Results:
1. `Expression.exists_exchanged`, `Program.exists_exchanged`: a canonical program one
   of whose tokens is a string has a counterpart with another string there.
2. `Program.Ends.exchange`: what ends a program still does with the string exchanged.
3. `Program.ofTokens_exchange`: the two readings.
-/

namespace Scriptlet

/-! ## Definitions -/

/-- The second expression is the first one with another string in one of its leaves. -/
inductive Expression.Exchanged (first second : String) : Expression → Expression → Prop
  | leaf : Exchanged first second (.string first) (.string second)
  | left {left left' right : Expression} : Exchanged first second left left' →
      Exchanged first second (.addition left right) (.addition left' right)
  | right {left right right' : Expression} : Exchanged first second right right' →
      Exchanged first second (.addition left right) (.addition left right')

/-- The second program is the first one with another string in one leaf of one statement. -/
def Program.Exchanged (first second : String) (p q : Program) : Prop :=
  ∃ before e e' behind, p.statements = before ++ .print e :: behind ∧
    q.statements = before ++ .print e' :: behind ∧ Expression.Exchanged first second e e'

/-- The string is exchanged in the leaf whose token has this number in the program. -/
structure Program.ExchangedAt (place : Nat) (first second : String) (p q : Program) : Prop where
  exchanged : p.Exchanged first second q
  token : p.tokens[place]? = some (.string first)
  tokens : q.tokens = p.tokens.set place (.string second)

/-- The second error is the first one, but for the string among the tokens left over
behind which these others stand. -/
inductive ParseError.Exchanged (first second : String) (behind : List Token) :
    ParseError → ParseError → Prop
  | same (e : ParseError) : Exchanged first second behind e e
  | leftOver (before : List Token) :
      Exchanged first second behind (.trailingInput (before ++ .string first :: behind))
        (.trailingInput (before ++ .string second :: behind))

variable {first second : String} {before behind : List Token}

/-! ## 1. Counterparts of programs -/

namespace ExchangeLemmas

theorem append_eq_append_cons {token : Token} {xs ys : List Token}
    (h : xs ++ ys = before ++ token :: behind) :
    (∃ more, xs = before ++ token :: more ∧ behind = more ++ ys) ∨
      ∃ more, before = xs ++ more ∧ ys = more ++ token :: behind := by
  rcases List.append_eq_append_iff.mp h with ⟨more, hbefore, hys⟩ | ⟨more, hxs, hbehind⟩
  · exact .inr ⟨more, hbefore, hys⟩
  · cases more with
    | nil => exact .inr ⟨[], by simpa using hxs.symm, by simpa using hbehind.symm⟩
    | cons found more =>
      obtain ⟨rfl, rfl⟩ := List.cons.inj hbehind
      exact .inl ⟨more, hxs, rfl⟩

theorem startsOperand_exchange (h : StartsOperand (before ++ .string second :: behind)) :
    StartsOperand (before ++ .string first :: behind) := by
  cases before with
  | nil => rfl
  | cons token before => exact h

theorem not_awaits_string (p : Program) (value : String) :
    ¬ p.Awaits (.string value) := by
  rintro (h | ⟨h, -⟩) <;> cases h

end ExchangeLemmas

open ExchangeLemmas

/-- An expression one of whose tokens is a string has a counterpart with another string
there. -/
theorem Expression.exists_exchanged {e : Expression} (second : String)
    (h : e.tokens = before ++ .string first :: behind) :
    ∃ e' : Expression, Exchanged first second e e' ∧
      e'.tokens = before ++ .string second :: behind ∧ (e.IsLeaf → e'.IsLeaf) ∧
      (e.Canonical → e'.Canonical) := by
  induction e generalizing before behind with
  | number | reference =>
    have hmem : Token.string first ∈ before ++ .string first :: behind := by simp
    rw [← h] at hmem
    cases List.mem_singleton.mp hmem
  | string value =>
    cases before with
    | nil =>
      obtain ⟨hvalue, rfl⟩ := List.cons.inj h
      obtain rfl := Token.string.inj hvalue
      exact ⟨.string second, .leaf, rfl, id, id⟩
    | cons token before =>
      exact absurd (List.cons.inj h).2.symm (by simp)
  | addition left right ihl ihr =>
    rcases append_eq_append_cons h with ⟨more, hleft, rfl⟩ | ⟨more, rfl, hright⟩
    · obtain ⟨left', hexchanged, htokens, hleaf, -⟩ := ihl hleft
      refine ⟨.addition left' right, .left hexchanged, ?_, False.elim, And.imp_left hleaf⟩
      rw [Expression.tokens, htokens, List.append_assoc, List.cons_append]
    · cases more with
      | nil => cases (List.cons.inj hright).1
      | cons sign more =>
        obtain ⟨rfl, hmore⟩ := List.cons.inj hright
        obtain ⟨right', hexchanged, htokens, -, hcanonical⟩ := ihr hmore
        refine ⟨.addition left right', .right hexchanged, ?_, False.elim, And.imp_right hcanonical⟩
        rw [Expression.tokens, htokens, List.append_assoc, List.cons_append]

namespace Program

/-- A canonical program one of whose tokens is a string has a counterpart with another
string there. -/
theorem exists_exchanged {p : Program} (hp : p.Canonical) (second : String)
    (h : p.tokens = before ++ .string first :: behind) :
    ∃ q, Program.Canonical q ∧ p.Exchanged first second q ∧
      q.tokens = before ++ .string second :: behind := by
  obtain ⟨statements⟩ := p
  induction statements generalizing before with
  | nil => exact absurd h.symm (by simp [tokens])
  | cons s statements ih =>
    obtain ⟨hs, hstatements⟩ := canonical_cons.mp hp
    rw [tokens_cons] at h
    rcases append_eq_append_cons h with ⟨more, hfirst, rfl⟩ | ⟨more, rfl, hlater⟩
    · cases s with
      | declaration => exact hs.elim
      | print e =>
        cases before with
        | nil => cases (List.cons.inj hfirst).1
        | cons word before =>
          obtain ⟨rfl, hmore⟩ := List.cons.inj hfirst
          obtain ⟨e', hexchanged, htokens, -, hcanonical⟩ := e.exists_exchanged second hmore
          refine ⟨⟨.print e' :: statements⟩, canonical_cons.mpr ⟨hcanonical hs, hstatements⟩,
            ⟨[], e, e', statements, rfl, rfl, hexchanged⟩, ?_⟩
          rw [tokens_cons, Statement.tokens, htokens]
          simp only [List.cons_append, List.append_assoc]
    · obtain ⟨⟨others⟩, hothers, ⟨earlier, e, e', later, hp, hq, hexchanged⟩, htokens⟩ :=
        ih hstatements hlater
      obtain rfl : statements = _ := hp
      obtain rfl : others = _ := hq
      refine ⟨⟨s :: (earlier ++ .print e' :: later)⟩, canonical_cons.mpr ⟨hs, hothers⟩,
        ⟨s :: earlier, e, e', later, rfl, rfl, hexchanged⟩, ?_⟩
      rw [tokens_cons, htokens, List.append_assoc]

theorem Exchanged.exchangedAt {p q : Program} (h : p.Exchanged first second q)
    (hp : p.tokens = before ++ .string first :: behind)
    (hq : q.tokens = before ++ .string second :: behind) :
    p.ExchangedAt before.length first second q where
  exchanged := h
  token := by rw [hp, List.getElem?_append_right (Nat.le_refl _), Nat.sub_self]; rfl
  tokens := by rw [hp, hq, List.set_append_right _ _ (Nat.le_refl _), Nat.sub_self]; rfl

theorem Exchanged.awaits_iff {p q : Program} (h : p.Exchanged first second q) (token : Token) :
    q.Awaits token ↔ p.Awaits token := by
  obtain ⟨earlier, e, e', later, hp, hq, -⟩ := h
  simp [Awaits, hp, hq]

/-! ## 2. What ends a program -/

/-- What ends a program still does with one of its strings exchanged. -/
theorem Ends.exchange {p : Program} (h : p.Ends (before ++ .string first :: behind))
    (second : String) : p.Ends (before ++ .string second :: behind) := by
  intro token more hrest hawaits hstart
  cases before with
  | nil =>
    obtain ⟨rfl, -⟩ := List.cons.inj hrest
    exact not_awaits_string p second hawaits
  | cons found before =>
    obtain ⟨rfl, rfl⟩ := List.cons.inj hrest
    exact h found _ rfl hawaits (startsOperand_exchange hstart)

theorem stopError_congr {p q : Program} {rest : List Token}
    (hawaits : ∀ token, q.Awaits token ↔ p.Awaits token)
    (hlength : q.tokens.length = p.tokens.length) : q.stopError rest = p.stopError rest := by
  have hreach : q.reach rest = p.reach rest := by
    cases rest with
    | nil => rfl
    | cons token more => simp only [reach, hawaits]
  rw [stopError, stopError, hreach, hlength]

/-- A string among the tokens that a program ends before shows in its error only if it is
left over. -/
theorem stopError_exchange {p : Program} (h : p.Ends (before ++ .string first :: behind))
    (second : String) :
    ParseError.Exchanged first second behind (p.stopError (before ++ .string first :: behind))
      (p.stopError (before ++ .string second :: behind)) := by
  cases before with
  | nil =>
    have hreach : ∀ value, p.reach ([] ++ .string value :: behind) = 0 := fun value =>
      AcceptanceLemmas.reach_of_not_awaits (not_awaits_string p value) behind
    rw [stopError, stopError, if_pos (hreach first), if_pos (hreach second)]
    exact .leftOver []
  | cons token before =>
    by_cases hawaits : p.Awaits token
    · cases before with
      | nil => exact absurd rfl (h token _ rfl hawaits)
      | cons found before =>
        have hreach : ∀ more, p.reach (token :: more) ≠ 0 := fun more => by
          rw [AcceptanceLemmas.reach_of_awaits hawaits]
          exact Nat.one_ne_zero
        rw [stopError, stopError]
        simp only [List.cons_append, if_neg (hreach _)]
        exact .same _
    · have hreach : ∀ more, p.reach (token :: more) = 0 :=
        AcceptanceLemmas.reach_of_not_awaits hawaits
      rw [List.cons_append, List.cons_append, stopError, stopError, if_pos (hreach _),
        if_pos (hreach _)]
      exact .leftOver (token :: before)

/-! ## 3. The two readings -/

/-- Two readings of tokens that differ in one string make the same program, or programs
that differ in the leaf of that string, or the same error but for that string. -/
theorem ofTokens_exchange (before behind : List Token) (errors : Strictness)
    (first second : String) :
    (∃ p q, ofTokens (before ++ .string first :: behind) errors = .ok p ∧
      ofTokens (before ++ .string second :: behind) errors = .ok q ∧
      (p = q ∨ p.ExchangedAt before.length first second q)) ∨
    ∃ d e, ofTokens (before ++ .string first :: behind) errors = .error d ∧
      ofTokens (before ++ .string second :: behind) errors = .error e ∧
      ParseError.Exchanged first second behind d e := by
  obtain ⟨p, rest, hp, htokens, hends⟩ := exists_program (before ++ .string first :: behind)
  rcases append_eq_append_cons htokens.symm with ⟨more, hinside, rfl⟩ | ⟨more, rfl, rfl⟩
  · obtain ⟨q, hq, hexchanged, hother⟩ := exists_exchanged hp second hinside
    have hawaits := hexchanged.awaits_iff
    have hqends : q.Ends rest := fun token more hrest hq =>
      hends token more hrest ((hawaits token).mp hq)
    have hlength : q.tokens.length = p.tokens.length := by
      rw [hinside, hother, List.length_append, List.length_append]
      rfl
    have hsecond : before ++ .string second :: (more ++ rest) = q.tokens ++ rest := by
      rw [hother, List.append_assoc, List.cons_append]
    rw [htokens, hsecond, ofTokens_eq hp hends, ofTokens_eq hq hqends,
      stopError_congr hawaits hlength]
    split
    · exact .inl ⟨p, q, rfl, rfl, .inr (hexchanged.exchangedAt hinside hother)⟩
    · exact .inr ⟨_, _, rfl, rfl, .same _⟩
  · rw [List.append_assoc, List.append_assoc, ofTokens_eq hp hends,
      ofTokens_eq hp (hends.exchange second)]
    cases errors with
    | lenient => exact .inl ⟨p, p, if_pos (.inr rfl), if_pos (.inr rfl), .inl rfl⟩
    | strict =>
      exact .inr ⟨_, _, if_neg (by simp), if_neg (by simp), stopError_exchange hends second⟩

end Program

end Scriptlet
