import Mathlib.Order.Bounds.Defs
import Scriptlet.Proofs.Program.Viability

/-!
# What a lenient reading keeps

A lenient reading of tokens never fails. Its program is the one that a strict
reading gives for the longest beginning of the tokens that it accepts: reading
stops neither short of that beginning nor behind it, also when a longer beginning
would need several tokens more.

Results:
1. `Ends.take`: a program ends before every beginning of what it ends before.
2. `isGreatest_accepted`: the longest accepted beginning of a list whose division
   is known.
3. `lenient_keeps_longest`: the result of a lenient reading.
-/

namespace Scriptlet

theorem StartsOperand.of_take {tokens : List Token} {n : Nat} (h : StartsOperand (tokens.take n)) :
    StartsOperand tokens := by
  cases tokens with
  | nil => simp [StartsOperand] at h
  | cons token more =>
    cases n with
    | zero => exact h.elim
    | succ n => exact h

namespace Program

/-! ## 1. Accepted beginnings -/

/-- A program ends before every beginning of the tokens that it ends before. -/
theorem Ends.take {p : Program} {rest : List Token} (h : p.Ends rest) (n : Nat) :
    p.Ends (rest.take n) := by
  intro token more htake hawaits hstart
  cases rest with
  | nil => simp at htake
  | cons first behind =>
    cases n with
    | zero => cases htake
    | succ n =>
      obtain ⟨rfl, rfl⟩ := List.cons.inj htake
      exact h first behind rfl hawaits hstart.of_take

/-- The program of a division is the longest accepted beginning. -/
theorem isGreatest_accepted {p : Program} (hp : p.Canonical) {rest : List Token}
    (hends : p.Ends rest) :
    IsGreatest {n | n ≤ (p.tokens ++ rest).length ∧ Accepted ((p.tokens ++ rest).take n)}
      p.tokens.length := by
  constructor
  · refine ⟨by rw [List.length_append]; exact Nat.le_add_right _ _, ?_⟩
    rw [List.take_left]
    exact accepted_iff.mpr ⟨p, hp, rfl⟩
  · rintro n ⟨hlength, haccepted⟩
    refine Nat.le_of_not_lt fun hlong => ?_
    rw [List.take_append, List.take_of_length_le (Nat.le_of_lt hlong)] at haccepted
    -- The tokens behind the program are not enough for a longer one.
    refine ViabilityLemmas.not_accepted_of_ends hp (hends.take _) ?_ haccepted
    have hne : rest ≠ [] := by
      rintro rfl
      rw [List.append_nil] at hlength
      exact Nat.not_lt_of_le hlength hlong
    rw [Ne, List.take_eq_nil_iff, not_or]
    exact ⟨Nat.sub_ne_zero_of_lt hlong, hne⟩

/-! ## 2. The result of a lenient reading -/

theorem lenient_of_strict {tokens : List Token} {p : Program}
    (h : ofTokens tokens .strict = .ok p) : ofTokens tokens .lenient = .ok p := by
  obtain ⟨hp, rfl⟩ := (ofTokens_strict_iff tokens p).mp h
  have hlenient := ofTokens_eq hp (ends_nil p) .lenient
  rwa [List.append_nil, if_pos (.inl rfl)] at hlenient

/-- A lenient reading gives a program, and it is the one that a strict reading gives
for the longest beginning that it accepts. The empty beginning is accepted always. -/
theorem lenient_keeps_longest (tokens : List Token) :
    Accepted (tokens.take 0) ∧
    ∃ k p, IsGreatest {n | n ≤ tokens.length ∧ Accepted (tokens.take n)} k ∧
      ofTokens tokens .lenient = .ok p ∧ ofTokens (tokens.take k) .strict = .ok p := by
  refine ⟨accepted_iff.mpr ⟨⟨[]⟩, by simp [Canonical], rfl⟩, ?_⟩
  obtain ⟨p, rest, hp, rfl, hends⟩ := exists_program tokens
  refine ⟨p.tokens.length, p, isGreatest_accepted hp hends, ?_, ?_⟩
  · rw [ofTokens_eq hp hends, if_pos (.inr rfl)]
  · rw [List.take_left]
    exact (ofTokens_strict_iff _ _).mpr ⟨hp, rfl⟩

end Program

end Scriptlet
