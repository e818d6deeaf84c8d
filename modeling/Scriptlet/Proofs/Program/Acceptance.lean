import Mathlib.Logic.ExistsUnique
import Scriptlet.Proofs.Program.Reading

/-!
# The programs that are accepted

A list of tokens divides into a program and a rest with which the program cannot
be carried on (`Division`), and that division is the result of reading it: the
program when the rest is empty or a lenient reading drops it, and otherwise an
error that the rest determines.

Results:
1. `ofTokens_eq`: the result of reading tokens whose division is known.
2. `accepted_iff`: the accepted lists are the tokens of canonical programs.
3. `strict_reading_exact`: a strict reading is the inverse of writing a canonical
   program as tokens.
-/

namespace Scriptlet

namespace Program

/-! ## 1. The result of reading -/

/-- The error of a strict reading that stops behind the program `p`. If the token
there can be accepted, the error is at the one behind it. -/
def stopError (p : Program) (rest : List Token) : ParseError :=
  if p.reach rest = 0 then .trailingInput rest
  else
    match rest[1]? with
    | some token => .unexpectedToken token (p.tokens.length + 1)
    | none => .unexpectedEnd (p.tokens.length + 1)

namespace AcceptanceLemmas

/-- The reader at the end of reading tokens that divide into `p` and `rest`. -/
def stop (p : Program) (rest : List Token) : Reader :=
  ((Reader.ofTokens (p.tokens ++ rest)).pastStatements p.statements rest).pastTrial

theorem rest_stop {p : Program} (hp : p.Canonical) (rest : List Token) :
    (stop p rest).rest = rest :=
  Reader.rest_pastStatements p.statements hp rfl

theorem position_stop {p : Program} (hp : p.Canonical) (rest : List Token) :
    (stop p rest).position = p.tokens.length :=
  (Reader.position_pastStatements hp _ rest).trans (Nat.zero_add _)

theorem reach_of_awaits {p : Program} {token : Token} (h : p.Awaits token) (more : List Token) :
    p.reach (token :: more) = 1 :=
  if_pos h

theorem reach_of_not_awaits {p : Program} {token : Token} (h : ¬ p.Awaits token)
    (more : List Token) : p.reach (token :: more) = 0 :=
  if_neg h

/-- The furthest refusal lies ahead of the place where reading stops exactly when
the token there can be accepted, and then one token ahead. -/
theorem furthest_stop {p : Program} (hp : p.Canonical) (rest : List Token) :
    (p.reach rest = 0 → (stop p rest).furthest ≤ p.tokens.length) ∧
      (p.reach rest ≠ 0 → (stop p rest).furthest = p.tokens.length + 1) := by
  let found := (Reader.ofTokens (p.tokens ++ rest)).pastStatements p.statements rest
  have hplace : found.position = p.tokens.length := position_stop hp rest
  have hrest : found.rest = rest := rest_stop hp rest
  have hfound := Reader.furthest_pastStatements p.statements rest hp
    (r := Reader.ofTokens (p.tokens ++ rest)) (Nat.le_refl 0)
  change if _ then found.furthest = found.position + 1 else found.furthest ≤ found.position
    at hfound
  have hstop : (stop p rest).furthest = max found.furthest
      (if found.rest.head? = some .printWord then found.position + 1 else found.position) := rfl
  rw [hplace] at hfound
  rw [hstop, hrest, hplace]
  cases rest with
  | nil =>
    rw [if_neg (by simp)] at hfound
    exact ⟨fun _ => Nat.max_le.mpr ⟨hfound, Nat.le_refl _⟩, fun h => absurd rfl h⟩
  | cons token more =>
    by_cases hawaits : p.Awaits token
    · rw [reach_of_awaits hawaits]
      refine ⟨fun h => absurd h Nat.one_ne_zero, fun _ => ?_⟩
      rcases hawaits with rfl | ⟨rfl, hne⟩
      · rw [if_neg (by simp)] at hfound
        exact Nat.max_eq_right (Nat.le_succ_of_le hfound)
      · rw [if_pos ⟨rfl, hne⟩] at hfound
        rw [hfound]
        exact Nat.max_eq_left (Nat.le_succ _)
    · rw [reach_of_not_awaits hawaits]
      refine ⟨fun _ => ?_, fun h => absurd rfl h⟩
      rw [Awaits, not_or] at hawaits
      rw [if_neg (by simpa using hawaits.2)] at hfound
      rw [if_neg (by simpa using hawaits.1)]
      exact Nat.max_le.mpr ⟨hfound, Nat.le_refl _⟩

theorem leftover_stop {p : Program} (hp : p.Canonical) {rest : List Token} (h : rest ≠ []) :
    (stop p rest).leftover (p.tokens ++ rest) = some (p.stopError rest) := by
  obtain ⟨hnear, hahead⟩ := furthest_stop hp rest
  unfold Reader.leftover stopError
  rw [rest_stop hp, position_stop hp, if_neg (by simpa using h)]
  by_cases hreach : p.reach rest = 0
  · rw [if_pos hreach, if_neg (Nat.not_lt_of_le (hnear hreach))]
  · rw [if_neg hreach, hahead hreach, if_pos (Nat.lt_succ_self _),
      List.getElem?_append_right (Nat.le_add_right _ 1), Nat.add_sub_cancel_left]
    cases rest[1]? <;> rfl

end AcceptanceLemmas

open AcceptanceLemmas

theorem ofTokens_eq {p : Program} (hp : p.Canonical) {rest : List Token} (hends : p.Ends rest)
    (errors : Strictness) :
    ofTokens (p.tokens ++ rest) errors =
      if rest = [] ∨ errors = .lenient then .ok p else .error (p.stopError rest) := by
  have hread : (Reader.ofTokens (p.tokens ++ rest)).statements = (p.statements, stop p rest) :=
    Reader.statements_of_tokens hp hends rfl
  unfold ofTokens ProgramReading.ofTokens
  rw [hread]
  by_cases hrest : rest = []
  · have hnone : (stop p rest).leftover (p.tokens ++ rest) = none := by
      rw [Reader.leftover, rest_stop hp, hrest]
      rfl
    rw [if_pos (.inl hrest)]
    simp only [hnone]
  · cases errors with
    | strict => simp [leftover_stop hp hrest, hrest]
    | lenient => simp [leftover_stop hp hrest]

/-! ## 2. Accepted tokens -/

theorem ofTokens_strict_iff (tokens : List Token) (p : Program) :
    ofTokens tokens .strict = .ok p ↔ p.Canonical ∧ tokens = p.tokens := by
  constructor
  · intro h
    obtain ⟨q, rest, hq, rfl, hends⟩ := exists_program tokens
    rw [ofTokens_eq hq hends] at h
    split at h
    · rename_i hrest
      obtain rfl := hrest.resolve_right (by simp)
      obtain rfl := Except.ok.inj h
      exact ⟨hq, List.append_nil _⟩
    · exact absurd h (by simp)
  · rintro ⟨hp, rfl⟩
    have h := ofTokens_eq hp (ends_nil p) .strict
    rwa [List.append_nil, if_pos (.inl rfl)] at h

/-- The accepted lists of tokens are those of canonical programs. -/
theorem accepted_iff {tokens : List Token} :
    Accepted tokens ↔ ∃ p, Program.Canonical p ∧ tokens = p.tokens := by
  simp only [Accepted, ofTokens_strict_iff]

theorem canonical_of_ofTokens {tokens : List Token} {errors : Strictness} {p : Program}
    (h : ofTokens tokens errors = .ok p) : p.Canonical := by
  obtain ⟨q, rest, hq, rfl, hends⟩ := exists_program tokens
  rw [ofTokens_eq hq hends] at h
  split at h
  · obtain rfl := Except.ok.inj h
    exact hq
  · exact absurd h (by simp)

/-! ## 3. Reading is the inverse of writing -/

namespace AcceptanceLemmas

theorem mem_expression_tokens {e : Expression} {token : Token} (h : token ∈ e.tokens) :
    token = .plus ∨ (Reader.operandOf token).isSome = true := by
  induction e with
  | addition left right ihl ihr =>
    rcases List.mem_append.mp h with hleft | hright
    · exact ihl hleft
    · rcases List.mem_cons.mp hright with rfl | hright
      · exact .inl rfl
      · exact ihr hright
  | number | string | reference =>
    obtain rfl := List.mem_singleton.mp h
    exact .inr rfl

theorem mem_program_tokens {p : Program} (hp : p.Canonical) {token : Token}
    (h : token ∈ p.tokens) :
    token = .printWord ∨ token = .plus ∨ (Reader.operandOf token).isSome = true := by
  obtain ⟨s, hs, htoken⟩ := List.mem_flatMap.mp h
  cases s with
  | declaration => exact (hp _ hs).elim
  | print e =>
    rcases List.mem_cons.mp htoken with rfl | htoken
    · exact .inl rfl
    · exact .inr (mem_expression_tokens htoken)

end AcceptanceLemmas

/-- A strict reading of tokens gives a program exactly when the program is
canonical and the tokens are its own. So an accepted list has one program and
holds neither a `let` nor a `=`; a reading in either mode makes print statements
only, each with a canonical expression; and every canonical program is read back
from its tokens. Payloads are compared bit by bit, a NaN like any other. -/
theorem strict_reading_exact :
    (∀ (tokens : List Token) (p : Program),
      ofTokens tokens .strict = .ok p ↔ p.Canonical ∧ tokens = p.tokens) ∧
    (∀ tokens : List Token, Accepted tokens →
      .letWord ∉ tokens ∧ .assign ∉ tokens ∧ ∃! p, ofTokens tokens .strict = .ok p) ∧
    (∀ (tokens : List Token) (errors : Strictness) (p : Program),
      ofTokens tokens errors = .ok p → ∀ s ∈ p.statements, ∃ e, s = .print e ∧ e.Canonical) ∧
    (∀ p : Program, p.Canonical → ofTokens p.tokens .strict = .ok p) := by
  refine ⟨ofTokens_strict_iff, fun tokens h => ?_, fun tokens errors p h s hs => ?_,
    fun p hp => (ofTokens_strict_iff _ _).mpr ⟨hp, rfl⟩⟩
  · obtain ⟨p, hread⟩ := h
    obtain ⟨hp, rfl⟩ := (ofTokens_strict_iff _ _).mp hread
    refine ⟨fun hlet => ?_, fun hassign => ?_, p, hread, fun q hq => ?_⟩
    · exact absurd (mem_program_tokens hp hlet) (by decide)
    · exact absurd (mem_program_tokens hp hassign) (by decide)
    · exact Except.ok.inj (hq.symm.trans hread)
  · have hs := canonical_of_ofTokens h s hs
    cases s with
    | declaration => exact hs.elim
    | print e => exact ⟨e, rfl, hs⟩

/-- A sum of a NaN and a name, read and written back. -/
theorem strict_reading_exact_nan_sum :
    let nan : Binary64 := ⟨0x7FF8000000000000⟩
    let p : Program := ⟨[.print (.addition (.number nan) (.reference "a"))]⟩
    p.Canonical ∧ Accepted p.tokens ∧ ofTokens p.tokens .strict = .ok p ∧
      .letWord ∉ p.tokens ∧ .assign ∉ p.tokens ∧ (∃! q, ofTokens p.tokens .strict = .ok q) ∧
      ∀ s ∈ p.statements, ∃ e, s = .print e ∧ e.Canonical := by
  intro nan p
  have hp : p.Canonical := by decide
  have hread : ofTokens p.tokens .strict = .ok p := strict_reading_exact.2.2.2 p hp
  obtain ⟨hlet, hassign, hunique⟩ := strict_reading_exact.2.1 p.tokens ⟨p, hread⟩
  exact ⟨hp, ⟨p, hread⟩, hread, hlet, hassign, hunique,
    strict_reading_exact.2.2.1 p.tokens .strict p hread⟩

end Program

end Scriptlet
