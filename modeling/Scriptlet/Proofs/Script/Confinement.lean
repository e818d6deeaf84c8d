import Scriptlet.Proofs.Program.Exchange
import Scriptlet.Proofs.Token.Concatenation
import Scriptlet.Proofs.Token.Failure
import Scriptlet.Proofs.Token.Tiling
import Scriptlet.Script

/-!
# String literals in the middle of a script

The literal of a string is read as that string, whatever the string holds: no quote,
backslash or line feed in it ends the literal or takes a part of the text behind it.
So when two scripts differ in one literal only, the tokens before it are the same, and
so are those behind it but for their places, and the two readings are the same but
for what the literal holds.

Results:
1. `LexError.sameKind_movedTo`: an error that is moved keeps its kind.
2. `Token.locatedOfString_between`: what is answered for a text with a literal in it.
3. `Program.ofString_between`: what is answered for a script with a literal in it.
4. `Program.literals_confined`: the results of two scripts that differ in a literal.
-/

namespace Scriptlet

/-! ## 1. Errors at different places -/

namespace LexError

/-- The errors have the same cause, wherever they occur. -/
def SameKind : LexError → LexError → Prop
  | .unrecognizedInput _, .unrecognizedInput _ => True
  | .unterminatedString _, .unterminatedString _ => True
  | _, _ => False

theorem sameKind_movedTo (e : LexError) (base other : Position) :
    (e.movedTo base).SameKind (e.movedTo other) := by
  cases e <;> trivial

theorem offset_position_movedTo (e : LexError) (base : Position) :
    (e.movedTo base).position.offset = base.offset + e.position.offset := by
  cases e <;> rfl

end LexError

/-! ## 2. A literal between two texts -/

namespace Token

variable {before : String} {ts : List (Located Token)}

theorem locatedOfString_text_string (value : String) (o : Options) :
    locatedOfString (Token.string value).text o =
      .ok [⟨.string value, .start, Position.start.past (Token.string value).text.toList⟩] := by
  have hread := locatedOfString_of_lexeme (o := o) (lexeme_text_string value) trivial
  rwa [String.ofList_toList] at hread

/-- A literal ends what stands before it, since it begins with a quote. -/
theorem cleanBoundary_literal (value : String) :
    CleanBoundary before ts (Token.string value).text := by
  intro last c _ _ hc
  rw [text, String.toList_ofList] at hc
  obtain rfl := Option.some.inj hc
  obtain ⟨hclass, hdigit, -⟩ := RecognitionLemmas.signs_apart (.inr (.inr rfl))
  exact ⟨fun _ => hclass, fun _ => hdigit⟩

theorem cleanBoundary_of_string {value : String} {span : Span} (behind : String) :
    CleanBoundary before (ts ++ [⟨.string value, span⟩]) behind := by
  intro last c hlast _ _
  rw [List.getLast?_concat] at hlast
  obtain rfl := Option.some.inj hlast
  exact ⟨False.elim, False.elim⟩

/-- What is answered for a text that a strict reading accepts, the literal of a string
behind it and another text behind that: the tokens of the first text, the string and the
tokens of the last text, moved, or the error of the last text, moved. -/
theorem locatedOfString_between (h : locatedOfString before ⟨.strict, .longestRun⟩ = .ok ts)
    (value behind : String) (errors : Strictness) :
    ∃ span, locatedOfString (before ++ (Token.string value).text ++ behind) ⟨errors, .longestRun⟩ =
      match locatedOfString behind ⟨errors, .longestRun⟩ with
      | .ok us => .ok (ts ++ ⟨.string value, span⟩ ::
          us.map (·.movedTo (Position.start.past (before ++ (Token.string value).text).toList)))
      | .error e =>
        .error (e.movedTo (Position.start.past (before ++ (Token.string value).text).toList)) := by
  have hliteral := locatedOfString_append_of_clean h (cleanBoundary_literal value) .strict
  rw [locatedOfString_text_string] at hliteral
  have hread := locatedOfString_append_of_clean hliteral (cleanBoundary_of_string behind) errors
  refine ⟨Span.movedTo ⟨.start, Position.start.past (Token.string value).text.toList⟩
    (Position.start.past before.toList), hread.trans ?_⟩
  cases locatedOfString behind ⟨errors, .longestRun⟩ with
  | ok us => exact congrArg Except.ok (List.append_assoc ts _ _)
  | error e => rfl

end Token

/-! ## 3. Two scripts that differ in a literal -/

namespace Program

/-- What is answered for a script with a literal in it, behind a text that a strict
reading accepts, follows from the tokens or the error of the text behind the literal. -/
theorem ofString_between {before : String} {ts : List (Located Token)}
    (h : Token.locatedOfString before ⟨.strict, .longestRun⟩ = .ok ts) (value behind : String)
    (errors : Strictness) :
    ofString (before ++ (Token.string value).text ++ behind) ⟨errors, .longestRun⟩ =
      match Token.locatedOfString behind ⟨errors, .longestRun⟩ with
      | .ok us => (ofTokens (ts.map Located.value ++ .string value :: us.map Located.value)
          errors).mapError .parse
      | .error e => .error (.lex
          (e.movedTo (Position.start.past (before ++ (Token.string value).text).toList))) := by
  obtain ⟨span, hread⟩ := Token.locatedOfString_between h value behind errors
  cases hbehind : Token.locatedOfString behind ⟨errors, .longestRun⟩ with
  | ok us =>
    rw [hbehind] at hread
    rw [ofString_of_located hread, List.map_append, List.map_cons, List.map_map]
    rfl
  | error e =>
    rw [hbehind] at hread
    exact ofString_of_error hread

/-- When two scripts differ in one literal only, behind a text that a strict reading
accepts, both give programs, the same ones but for one leaf, which holds what the
literal holds; or both fail at the same tokens, and only tokens that are left over show
the literal; or both fail in the text behind the literal, with the same cause and as far
apart as the literals differ in length. -/
theorem literals_confined {before : String} {ts : List (Located Token)}
    (h : Token.locatedOfString before ⟨.strict, .longestRun⟩ = .ok ts) (behind : String)
    (errors : Strictness) (first second : String) :
    let read := fun value =>
      ofString (before ++ (Token.string value).text ++ behind) ⟨errors, .longestRun⟩
    (∃ p q, read first = .ok p ∧ read second = .ok q ∧
      (p = q ∨ p.ExchangedAt ts.length first second q)) ∨
    (∃ us d e, Token.locatedOfString behind ⟨errors, .longestRun⟩ = .ok us ∧
      read first = .error (.parse d) ∧ read second = .error (.parse e) ∧
      ParseError.Exchanged first second (us.map Located.value) d e) ∨
    ∃ d e, read first = .error (.lex d) ∧ read second = .error (.lex e) ∧ d.SameKind e ∧
      d.position.offset + (Token.string second).text.length =
        e.position.offset + (Token.string first).text.length := by
  intro read
  have hread value : read value = _ := ofString_between h value behind errors
  cases hbehind : Token.locatedOfString behind ⟨errors, .longestRun⟩ with
  | ok us =>
    simp only [hbehind] at hread
    rw [hread, hread]
    rcases ofTokens_exchange (ts.map Located.value) (us.map Located.value) errors first second with
      ⟨p, q, hp, hq, hexchanged⟩ | ⟨d, e, hd, he, hexchanged⟩
    · rw [List.length_map] at hexchanged
      rw [hp, hq]
      exact .inl ⟨p, q, rfl, rfl, hexchanged⟩
    · rw [hd, he]
      exact .inr (.inl ⟨us, d, e, rfl, rfl, rfl, hexchanged⟩)
  | error e =>
    simp only [hbehind] at hread
    refine .inr (.inr ⟨_, _, hread first, hread second, e.sameKind_movedTo _ _, ?_⟩)
    simp only [LexError.offset_position_movedTo, Position.offset_start_past, String.length_toList,
      String.length_append]
    omega

/-- A string that would make another sum if the first quote in it ended the literal. -/
theorem literals_confined_quotes :
    let other := "\" + \""
    let sum : String → Program := fun value =>
      ⟨[.print (.addition (.string value) (.reference "y"))]⟩
    let read := fun value =>
      ofString ("print " ++ (Token.string value).text ++ " + y") ⟨.strict, .longestRun⟩
    Token.locatedOfString "print " ⟨.strict, .longestRun⟩ =
        .ok [⟨.printWord, ⟨0, 1, 1⟩, ⟨5, 1, 6⟩⟩] ∧
      read "x" = .ok (sum "x") ∧ read other = .ok (sum other) ∧
      (sum "x").ExchangedAt 1 "x" other (sum other) := by
  intro other sum read
  have hbefore : Token.locatedOfString "print " ⟨.strict, .longestRun⟩ =
      .ok [⟨.printWord, ⟨0, 1, 1⟩, ⟨5, 1, 6⟩⟩] := by decide +kernel
  have hfirst : read "x" = .ok (sum "x") := by decide +kernel
  have hsecond : read other = .ok (sum other) := by decide +kernel
  refine ⟨hbefore, hfirst, hsecond, ?_⟩
  rcases literals_confined hbefore " + y" .strict "x" other with
    ⟨p, q, hp, hq, hexchanged⟩ | ⟨_, _, _, -, herror, -⟩ | ⟨_, _, herror, -⟩
  · obtain rfl := Except.ok.inj (hfirst.symm.trans hp)
    obtain rfl := Except.ok.inj (hsecond.symm.trans hq)
    exact hexchanged.resolve_left (by decide)
  · cases hfirst.symm.trans herror
  · cases hfirst.symm.trans herror

end Program

end Scriptlet
