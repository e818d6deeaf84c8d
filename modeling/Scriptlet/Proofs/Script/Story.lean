import Scriptlet.Proofs.Program.Trials
import Scriptlet.Proofs.Token.Stopping
import Scriptlet.Script

/-!
# The events of reading a script

What is noted while a script is read says what was made of it: its tokens, the trials
to read a statement and, where input is dropped, the error that a strict reading
answers.

Results:
1. `TokenStream.events_ofString`: the events of the first stage.
2. `ScriptReading.events_exact`: the events of both stages.
-/

namespace Scriptlet

/-- The level of an event and what it says. -/
structure Event.Says (event : Event) (level : Level) (fields : List (String × String)) :
    Prop where
  level_eq : event.level = level
  fields_eq : event.fields = fields

/-! ## 1. The first stage -/

/-- Every token that a lenient reading answers is noted in either mode. -/
theorem TokenStream.events_ofString {source : String} {o : Options} {ts : List (Located Token)}
    (h : Token.locatedOfString source ⟨.lenient, o.numbers⟩ = .ok ts) :
    (ofString source o).events = ts.map .recognized ++
      o.errors.dropped .discardedText (Token.locatedOfString source ⟨.strict, o.numbers⟩) := by
  obtain ⟨errors, numbers⟩ := o
  unfold Token.locatedOfString ofString at h ⊢
  dsimp only at h ⊢
  cases hleftover : (Scanner.ofString source numbers).scan.2.leftover with
  | none =>
    rw [hleftover] at h
    rw [← Except.ok.inj h]
    cases errors <;> exact (List.append_nil _).symm
  | some error =>
    rw [hleftover] at h
    rw [← Except.ok.inj h]
    cases errors with
    | strict => exact (List.append_nil _).symm
    | lenient => rfl

/-! ## 2. Both stages -/

namespace ScriptReading

variable {source : String} {o : Options}

theorem events_of_located {ts : List (Located Token)}
    (h : Token.locatedOfString source o = .ok ts) :
    (ofString source o).events = (TokenStream.ofString source o).events ++
      (ProgramReading.ofTokens (ts.map Located.value) o.errors).events := by
  rw [Token.locatedOfString] at h
  rw [ofString]
  dsimp only
  rw [h]

theorem events_of_error {e : LexError} (h : Token.locatedOfString source o = .error e) :
    (ofString source o).events = (TokenStream.ofString source o).events := by
  rw [Token.locatedOfString] at h
  rw [ofString]
  dsimp only
  rw [h]

/-- The events of reading a script, in order: a lenient reading of the text has tokens
`ts` and makes a program `p` of them, and then

* every token of `ts` is noted;
* a strict reading that fails here notes nothing more, and a lenient one notes the
  error with which it fails;
* every statement of `p` is found in one trial, and the last trial finds none; each
  begins where the one before it stopped, the first at the first token; what is noted
  between its beginning and its end are the leaves of the statement with the places of
  their tokens, and nothing in the last one;
* a lenient reading notes the error with which a strict reading of the tokens fails.

Dropped input is noted at the level for debugging, everything else at the one for tracing.
Tokens, spans and errors are noted by what is said about them, a leaf as it is inspected,
and the place where a trial begins, the place of a leaf, whether a statement was found and
the place where reading goes on, each under its name; the end of a trial says no more. -/
theorem events_exact (source : String) (o : Options) :
    (∃ ts p found last,
      Token.locatedOfString source ⟨.lenient, o.numbers⟩ = .ok ts ∧
      Program.ofString source ⟨.lenient, o.numbers⟩ = .ok p ∧
      List.Forall₂ (Trial.Finds (ts.map Located.value)) p.statements found ∧
      (found.map Trial.stop).Pairwise (· < ·) ∧ Trial.Fails last ∧
      Trial.Chained 0 (found ++ [last]) ∧
      let trials := (found ++ [last]).flatMap Trial.events ++
        o.errors.dropped .discardedTokens (Program.ofTokens (ts.map Located.value) .strict)
      (ofString source o).events = ts.map .recognized ++
        match o.errors, Token.locatedOfString source ⟨.strict, o.numbers⟩ with
        | .strict, .error _ => []
        | .lenient, .error e => .discardedText e :: trials
        | _, .ok _ => trials) ∧
    (∀ t : Located Token, (Event.recognized t).Says .trace
      [("message", "recognized token"), ("token", t.value.text), ("span", t.span.text)]) ∧
    (∀ e : LexError, (Event.discardedText e).Says .debug
      [("message", "discarding unlexed input"), ("error", e.message)]) ∧
    (∀ position : Nat, (Event.entered position).Says .trace
      [("position", toString position)]) ∧
    (∀ (value : Expression) (position : Nat), (Event.operand value position).Says .trace
      [("operand", value.outline.line), ("position", toString position)]) ∧
    (∀ (matched : Bool) (stop : Nat), (Event.tried matched stop).Says .trace
      [("matched", if matched then "true" else "false"), ("end", toString stop)]) ∧
    Event.left.Says .trace [] ∧
    ∀ e : ParseError, (Event.discardedTokens e).Says .debug
      [("message", "discarding unparsed tokens"), ("error", e.message)] := by
  refine ⟨?_, fun _ => ⟨rfl, rfl⟩, fun _ => ⟨rfl, rfl⟩, fun _ => ⟨rfl, rfl⟩,
    fun _ _ => ⟨rfl, rfl⟩, fun _ _ => ⟨rfl, rfl⟩, ⟨rfl, rfl⟩, fun _ => ⟨rfl, rfl⟩⟩
  obtain ⟨errors, numbers⟩ := o
  obtain ⟨d⟩ := PartialFactorisation.ofText numbers source.toList
  have hts := Token.locatedOfString_lenient rfl d
  obtain ⟨p, found, last, hp, hfound, hlast, hchained, hlog⟩ :=
    ProgramReading.exists_trials (d.located.map Located.value)
  refine ⟨d.located, p, found, last, hts, Program.ofString_eq_ok_iff.mpr ⟨_, hts, hp⟩, hfound,
    (Trial.pairwise_stop hfound hchained.of_append).1, hlast, hchained, ?_⟩
  have htext := TokenStream.events_ofString (o := ⟨errors, numbers⟩) hts
  have hprogram := ProgramReading.events_ofTokens (d.located.map Located.value)
  cases hstrict : Token.locatedOfString source ⟨.strict, numbers⟩ with
  | ok us =>
    have hlocated : Token.locatedOfString source ⟨errors, numbers⟩ = .ok d.located := by
      cases errors with
      | lenient => exact hts
      | strict => exact hstrict.trans ((Token.lenient_of_strict hstrict).symm.trans hts)
    rw [hstrict] at htext
    rw [events_of_located hlocated, htext, hprogram, hlog]
    cases errors <;> simp [Strictness.dropped]
  | error e =>
    rw [hstrict] at htext
    cases errors with
    | strict =>
      rw [events_of_error hstrict, htext]
      rfl
    | lenient =>
      rw [events_of_located hts, htext, hprogram, hlog, List.append_assoc]
      rfl

-- The `+` is looked at in the first trial, and nothing of that stays in the trace.
example : (ofString "print a +" ⟨.lenient, .longestRun⟩).events =
    [.recognized ⟨.printWord, ⟨0, 1, 1⟩, ⟨5, 1, 6⟩⟩,
      .recognized ⟨.identifier "a", ⟨6, 1, 7⟩, ⟨7, 1, 8⟩⟩,
      .recognized ⟨.plus, ⟨8, 1, 9⟩, ⟨9, 1, 10⟩⟩,
      .entered 0, .operand (.reference "a") 1, .tried true 2, .left,
      .entered 2, .tried false 2, .left, .discardedTokens (.unexpectedEnd 3)] := by
  decide +kernel

end ScriptReading

end Scriptlet
