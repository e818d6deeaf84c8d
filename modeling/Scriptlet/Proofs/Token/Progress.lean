import Scriptlet.Proofs.Token.Stopping
import Scriptlet.Token.Session

/-!
# Steps make progress or stay where they are

A step that finds a token reads a scalar that is not blank, and no later step reads it
again. A step that finds none reads the blanks before it, and every step from there on
finds none either and reads nothing. So a scan ends, after one step for each of its
tokens and one more.

Results:
1. `next_advances`: what a step reads that finds a token.
2. `next_stays`, `trail_next`: what a step reads that finds none, and all steps behind it.
3. `scanWithin_eq`, `length_scan_le`: how many steps a scan takes, and a bound on them.
4. `Scanner.progress_exact`: all of this about every scanner.
-/

namespace Scriptlet

/-! ## Definitions -/

/-- How many scalars of a text are not blank. -/
def nonBlanks (text : List Char) : Nat := text.countP (!isBlank ·)

namespace Scanner

/-- Reads tokens until a step finds none. There is no answer if that takes more steps
than are allowed. -/
def scanWithin : Nat → Scanner → Option (List (Located Token) × Scanner)
  | 0, _ => none
  | steps + 1, s =>
    match s.next with
    | (some token, after) =>
      (scanWithin steps after).map fun (found, stop) => (token :: found, stop)
    | (none, after) => some ([], after)

/-! ## 1. Steps that find a token -/

/-- A step that finds a token reads blanks and, behind them, a scalar that is not blank. -/
theorem next_advances {s after : Scanner} {found : Located Token}
    (h : s.next = (some found, after)) :
    ∃ gap first more, Blank gap ∧ isBlank first = false ∧
      Reaches s after (gap ++ first :: more) ∧
      found.span = ⟨s.input.position.past gap, after.input.position⟩ ∧
      found.span.start.offset < found.span.stop.offset := by
  obtain ⟨gap, text, hgap, hlexeme, -, hreach, hspan⟩ := next_eq_some_iff.mp h
  obtain ⟨first, more, rfl, hfirst⟩ := hlexeme.exists_cons
  refine ⟨gap, first, more, hgap, hfirst, hreach, hspan, ?_⟩
  rw [hspan, hreach.position, Position.past_append]
  show (s.input.position.past gap).offset < _
  rw [Position.offset_past _ (first :: more)]
  exact Nat.lt_add_of_pos_right (Nat.succ_pos _)

theorem nonBlanks_lt_of_next {s after : Scanner} {found : Located Token}
    (h : s.next = (some found, after)) :
    nonBlanks after.input.remaining < nonBlanks s.input.remaining := by
  obtain ⟨gap, first, more, -, hfirst, hreach, -, -⟩ := next_advances h
  have hcount : (first :: more).countP (!isBlank ·) = more.countP (!isBlank ·) + 1 :=
    List.countP_cons_of_pos (by rw [hfirst]; rfl)
  rw [nonBlanks, nonBlanks, hreach.text, List.countP_append, List.countP_append, hcount]
  omega

/-! ## 2. Steps that find none -/

/-- A step that finds no token reads the blanks up to the end or to a scalar that is not
blank, and a step from there changes nothing. -/
theorem next_stays {s after : Scanner} (h : s.next = (none, after)) :
    ∃ gap, Blank gap ∧ Reaches s after gap ∧
      (∀ c, after.input.peek = some c → isBlank c = false) ∧ after.next = (none, after) := by
  have hstuck := stuck_of_next_none h
  obtain ⟨rfl, -⟩ := next_none h
  exact ⟨(s.input.readWhile isBlank).1, fun c => Input.readWhile_accepts,
    reaches_readWhile s isBlank, hstuck.notBlank, next_of_stuck rfl blank_nil hstuck⟩

/-- Where a step changes nothing, no number of steps does. -/
theorem trail_next {s : Scanner} (h : s.next = (none, s)) (n : Nat) :
    Session.trail Operation.step (.start s) (List.replicate n .next) =
      List.replicate n (.token none, s) := by
  have hstep : Operation.step .next (.start s) = (.token none, .start s) := by
    rw [Operation.step, Session.perform, Session.start, h]
  induction n with
  | zero => rfl
  | succ n ih =>
    rw [List.replicate_succ, List.replicate_succ, Session.trail, hstep]
    exact congrArg _ ih

/-! ## 3. How many steps a scan takes -/

/-- A scan takes one step for each token that it finds and one that finds none. -/
theorem scanWithin_eq (steps : Nat) (s : Scanner) :
    s.scanWithin steps = if s.scan.1.length < steps then some s.scan else none := by
  induction steps generalizing s with
  | zero => exact (if_neg (Nat.not_lt_zero _)).symm
  | succ steps ih =>
    rw [scanWithin, scan_eq]
    rcases s.next with ⟨found, after⟩
    cases found with
    | none => exact (if_pos (Nat.succ_pos _)).symm
    | some token =>
      simp only [ih after, List.length_cons, Nat.add_lt_add_iff_right]
      split <;> rfl

/-- Every token of a scan has a scalar of its own that is not blank. -/
theorem length_scan_le (s : Scanner) : s.scan.1.length ≤ nonBlanks s.input.remaining := by
  rcases hnext : s.next with ⟨found, after⟩
  rw [scan_eq, hnext]
  cases found with
  | none => exact Nat.zero_le _
  | some token =>
    have hlt := length_lt_of_next_some hnext
    exact Nat.lt_of_le_of_lt (length_scan_le after) (nonBlanks_lt_of_next hnext)
termination_by s.input.remaining.length

end Scanner

/-! ## 4. Every scanner -/

/-- A step that finds a token has read blanks and, behind them, at least one scalar that
is not blank: the span of the token begins behind the blanks and ends, later, where the
scanner is then. A step that finds none has read the blanks and nothing else, up to the
end of the text or to a scalar that is not blank, and every step from there on finds none
and leaves the scanner as it is. So a scan of a text ends after at most one step for every
scalar of it that is not blank, and one more. -/
theorem Scanner.progress_exact (s : Scanner) :
    (∀ found after, s.next = (some found, after) →
      ∃ gap first more, Blank gap ∧ isBlank first = false ∧
        Reaches s after (gap ++ first :: more) ∧
        found.span = ⟨s.input.position.past gap, after.input.position⟩ ∧
        found.span.start.offset < found.span.stop.offset) ∧
    (∀ after, s.next = (none, after) →
      ∃ gap, Blank gap ∧ Reaches s after gap ∧
        (∀ c, after.input.peek = some c → isBlank c = false) ∧
        ∀ n, Session.trail Operation.step (.start after) (List.replicate n .next) =
          List.replicate n (.token none, after)) ∧
    s.scanWithin (nonBlanks s.input.remaining + 1) = some s.scan := by
  refine ⟨fun _ _ => next_advances, fun after h => ?_, ?_⟩
  · obtain ⟨gap, hgap, hreach, hstop, hstays⟩ := next_stays h
    exact ⟨gap, hgap, hreach, hstop, trail_next hstays⟩
  · rw [scanWithin_eq, if_pos (Nat.lt_succ_of_le (length_scan_le s))]

/-- Of ` a "b`, a step reads the word behind the blank. The next one reads a blank up to
the literal without an end, and there all others stay. -/
theorem Scanner.progress_exact_open_literal :
    let s : Scanner := .ofString " a \"b" .longestRun
    let behind : Scanner := ⟨⟨[' ', '"', 'b'], ⟨2, 1, 3⟩⟩, .longestRun⟩
    let stop : Scanner := ⟨⟨['"', 'b'], ⟨3, 1, 4⟩⟩, .longestRun⟩
    s.next = (some ⟨.identifier "a", ⟨1, 1, 2⟩, ⟨2, 1, 3⟩⟩, behind) ∧
    (∃ gap first more, Blank gap ∧ isBlank first = false ∧
      Reaches s behind (gap ++ first :: more)) ∧
    behind.next = (none, stop) ∧
    (∃ gap, Blank gap ∧ Reaches behind stop gap) ∧
    (∀ n, Session.trail Operation.step (.start stop) (List.replicate n .next) =
      List.replicate n (.token none, stop)) ∧
    s.scanWithin 4 = some s.scan := by
  intro s behind stop
  have hword : s.next = (some ⟨.identifier "a", ⟨1, 1, 2⟩, ⟨2, 1, 3⟩⟩, behind) := by
    decide +kernel
  have hopen : behind.next = (none, stop) := by decide +kernel
  obtain ⟨hadvances, -, hends⟩ := progress_exact s
  obtain ⟨-, hstays, -⟩ := progress_exact behind
  obtain ⟨gap, first, more, hgap, hfirst, hreach, -, -⟩ := hadvances _ _ hword
  obtain ⟨blanks, hblanks, hreaches, -, htrail⟩ := hstays _ hopen
  exact ⟨hword, ⟨gap, first, more, hgap, hfirst, hreach⟩, hopen, ⟨blanks, hblanks, hreaches⟩,
    htrail, hends⟩

end Scriptlet
