import Scriptlet.Proofs.Source.History
import Scriptlet.Proofs.Token.Stopping
import Scriptlet.Token.Session

/-!
# Histories of scanning

A scanner only moves its input forward, over blanks and lexemes. So a history of
scanning is described by divisions of the source too, and what an input or a scanner
does from now on depends on nothing but the offset that it has reached.

Results:
1. `Scanner.Operation.describes`: what each operation does to the division.
2. `Split.histories_exact`: all histories of reading and of scanning.
-/

namespace Scriptlet

def Split.scanner {source : List Char} (numbers : NumberRule) (d : Split source) : Scanner :=
  ⟨d.input, numbers⟩

/-! ## 1. The operations on a scanner -/

namespace Scanner

variable {source : List Char}

/-- What an operation does to a divided source and to the divisions of it that are kept. -/
inductive Operation.Does :
    Operation → Session (Split source) → Answer → Session (Split source) → Prop
  | token {d e : Split source} {p : Piece} (saved : List (Split source))
      (passes : d.Passes p.source e) (spelled : p.Spelled) :
      Does .next ⟨d, saved⟩ (.token (some (p.located d.position))) ⟨e, saved⟩
  | noToken {d e : Split source} {gap : List Char} (saved : List (Split source))
      (passes : d.Passes gap e) (blank : Blank gap) :
      Does .next ⟨d, saved⟩ (.token none) ⟨e, saved⟩
  | rest {d e : Split source} {pieces : List Piece} {gap : List Char}
      (saved : List (Split source)) (passes : d.Passes (Piece.joined pieces gap) e)
      (spelled : ∀ p ∈ pieces, p.Spelled) (blank : Blank gap) :
      Does .rest ⟨d, saved⟩ (.tokens (Piece.locatedAll d.position pieces)) ⟨e, saved⟩
  | save (d : Split source) (saved : List (Split source)) :
      Does .save ⟨d, saved⟩ .done ⟨d, d :: saved⟩
  | restore {s t : Session (Split source)} {found : Bool} (restores : s.Restores found t) :
      Does .restore s (.flag found) t

theorem exists_of_reaches {numbers : NumberRule} {d : Split source} {after : Scanner}
    {taken : List Char} (h : Reaches (d.scanner numbers) after taken) :
    ∃ e, d.Passes taken e ∧ after = e.scanner numbers := by
  obtain ⟨e, hpasses, he⟩ := d.exists_passes h.text
  exact ⟨e, hpasses, (h.eq h.text).trans (congrArg (Scanner.mk · numbers) he).symm⟩

theorem Operation.describes (numbers : NumberRule) :
    Session.Describes (@Operation.Does source) (Split.scanner numbers) Operation.step := by
  rintro operation ⟨d, saved⟩
  cases operation with
  | next =>
    rcases hnext : (d.scanner numbers).next with ⟨found, after⟩
    cases found with
    | none =>
      obtain ⟨e, hpasses, he⟩ := exists_of_reaches (reaches_readWhile (d.scanner numbers) isBlank)
      rw [(next_none hnext).1, skipBlanks, he] at hnext
      refine ⟨_, ⟨e, saved⟩, ?_, .noToken saved hpasses fun c => Input.readWhile_accepts⟩
      rw [step, Session.perform_map hnext]
    | some token =>
      obtain ⟨p, hspelled, -, hreach, rfl⟩ := exists_piece_of_next hnext
      obtain ⟨e, hpasses, rfl⟩ := exists_of_reaches hreach
      refine ⟨_, ⟨e, saved⟩, ?_, .token saved hpasses hspelled⟩
      rw [step, Session.perform_map hnext]
      rfl
  | rest =>
    obtain ⟨p⟩ := PartialFactorisation.ofText numbers d.remaining
    obtain ⟨e, hpasses, he⟩ := d.exists_passes p.taken_append_rest.symm
    have hscan : (d.scanner numbers).scan =
        (Piece.locatedAll d.position p.pieces, e.scanner numbers) := by
      show _ = (_, Scanner.mk e.input numbers)
      rw [he]
      exact scan_of_partial (s := d.scanner numbers) p
    refine ⟨_, ⟨e, saved⟩, ?_, .rest saved hpasses p.spelled p.blank⟩
    rw [step, Session.perform_map hscan]
  | save => exact ⟨_, _, rfl, .save d saved⟩
  | restore =>
    obtain ⟨found, t, hrestore, hrestores⟩ :=
      Session.exists_restore (Split.scanner numbers) ⟨d, saved⟩
    refine ⟨.flag found, t, ?_, .restore hrestores⟩
    rw [step, hrestore]

end Scanner

/-! ## 2. All histories -/

/-- Behind every operation of every history, an input and a scanner are those of a
division of the source: what remains is what they still hold, and their position is
the one behind what is read. Each operation does to the division what it says: to look
at the next scalar or for the end changes nothing, to read moves a beginning of what
remains, the longest one that is accepted or the blanks and lexemes of the tokens that
are answered, and to go back brings back the division that was kept last. An acceptor
can be a test with a state of its own, called once for every scalar in order. So two
histories that reach the same offset of a source go on alike. -/
theorem Split.histories_exact (source : String) (numbers : NumberRule) :
    (∀ history : List Input.Operation, ∃ trail s,
      Session.Runs Input.Operation.Does (.start (whole source.toList)) history trail s ∧
      Session.trail Input.Operation.step (.start (.ofString source)) history =
        trail.map (Prod.map id input) ∧
      Session.after Input.Operation.step (.start (.ofString source)) history = s.map input) ∧
    (∀ history : List Scanner.Operation, ∃ trail s,
      Session.Runs Scanner.Operation.Does (.start (whole source.toList)) history trail s ∧
      Session.trail Scanner.Operation.step (.start (.ofString source numbers)) history =
        trail.map (Prod.map id (scanner numbers)) ∧
      Session.after Scanner.Operation.step (.start (.ofString source numbers)) history =
        s.map (scanner numbers)) ∧
    (∀ d : Split source.toList,
      d.input.peek = d.remaining.head? ∧ (d.input.atEnd = true ↔ d.remaining = [])) ∧
    (∀ (σ : Type) (test : σ → Char → Bool × σ) (state : σ) (i : Input),
      Input.readTested test state i.position i.remaining = i.readBy (.ofTest test state)) ∧
    (∀ first second : List Input.Operation,
      let reached := Session.reached Input.Operation.step (.ofString source)
      (reached first).position.offset = (reached second).position.offset ↔
        Session.Alike Input.Operation.step (reached first) (reached second)) ∧
    ∀ first second : List Scanner.Operation,
      let reached := Session.reached Scanner.Operation.step (.ofString source numbers)
      (reached first).input.position.offset = (reached second).input.position.offset ↔
        Session.Alike Scanner.Operation.step (reached first) (reached second) := by
  refine ⟨Session.exists_run Input.Operation.describes (.start (whole source.toList)),
    Session.exists_run (Scanner.Operation.describes numbers) (.start (whole source.toList)),
    fun _ => ⟨rfl, List.isEmpty_iff⟩, fun _ => Input.readTested_eq, ?_, ?_⟩
  · exact offset_eq_iff_alike Input.Operation.describes .peek (fun _ => rfl)
      (fun i => i.position.offset) (fun _ => rfl) (whole source.toList)
  · exact offset_eq_iff_alike (Scanner.Operation.describes numbers) .save (fun _ => rfl)
      (fun s => s.input.position.offset) (fun _ => rfl) (whole source.toList)

end Scriptlet
