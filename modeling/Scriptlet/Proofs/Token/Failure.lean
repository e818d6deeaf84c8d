import Scriptlet.Proofs.Token.Stopping

/-!
# What the error of a strict reading says

A strict reading that fails has read everything before the place of its error,
and what it read there is what a lenient reading keeps. The two errors say what
more text can do: a text that is not recognized stays so whatever follows it, and
a literal without an end is ended by one quote, or by two where the first of them
would stand behind a backslash that takes its meaning away.

Results:
1. `LiteralBody.exists_or`: a text behind an opening quote holds the end of the
   literal, or only lacks it, or also ends in a backslash that escapes nothing.
2. `Token.locatedOfString_cut`, `Token.locatedOfString_append`,
   `Token.xor_accepted_append_quote`: the text cut, carried on and closed.
3. `Token.strict_failure_exact`: all of this about every strict reading.
-/

namespace Scriptlet

namespace LexError

def position : LexError → Position
  | .unrecognizedInput position => position
  | .unterminatedString start => start

theorem position_atScalar (c : Char) (place : Position) : (atScalar c place).position = place := by
  unfold atScalar
  split <;> rfl

theorem atScalar_eq_unrecognizedInput_iff {c : Char} {place found : Position} :
    atScalar c place = .unrecognizedInput found ↔ c ≠ '"' ∧ place = found := by
  unfold atScalar
  split <;> rename_i hquote <;> simp [hquote]

theorem atScalar_eq_unterminatedString_iff {c : Char} {place found : Position} :
    atScalar c place = .unterminatedString found ↔ c = '"' ∧ place = found := by
  unfold atScalar
  split <;> rename_i hquote <;> simp [hquote]

end LexError

/-! ## 1. Literals without an end -/

namespace LiteralBody

theorem append {first second value other : List Char} (hfirst : LiteralBody first value)
    (hsecond : LiteralBody second other) : LiteralBody (first ++ second) (value ++ other) := by
  induction hfirst with
  | nil => exact hsecond
  | plain hquote hslash _ ih => exact .plain hquote hslash ih
  | escaped _ ih => exact .escaped ih

theorem ne_append_quote {body value first other : List Char} (hbody : LiteralBody body value)
    (hfirst : LiteralBody first other) (behind : List Char) : body ≠ first ++ '"' :: behind := by
  induction hbody generalizing first other with
  | nil => simp
  | @plain c body value hquote hslash _ ih =>
    intro h
    cases hfirst with
    | nil => exact hquote (List.cons.inj h).1
    | plain _ _ hmore => exact ih hmore (List.cons.inj h).2
    | escaped _ => exact hslash (List.cons.inj h).1
  | @escaped c body value _ ih =>
    intro h
    cases hfirst with
    | nil => exact absurd (List.cons.inj h).1 (by decide)
    | plain _ hslash _ => exact hslash (List.cons.inj h).1.symm
    | escaped hmore => exact ih hmore (List.cons.inj (List.cons.inj h).2).2

/-- A text behind an opening quote holds the end of the literal, or it is the body
of one, or a backslash behind such a body. -/
theorem exists_or (text : List Char) :
    (∃ body value behind, LiteralBody body value ∧ text = body ++ '"' :: behind) ∨
      (∃ value, LiteralBody text value) ∨
      ∃ body value, LiteralBody body value ∧ text = body ++ ['\\'] := by
  match text with
  | [] => exact .inr (.inl ⟨[], .nil⟩)
  | c :: rest =>
    by_cases hquote : c = '"'
    · exact .inl ⟨[], [], rest, .nil, by rw [hquote]; rfl⟩
    by_cases hslash : c = '\\'
    · subst hslash
      match rest with
      | [] => exact .inr (.inr ⟨[], [], .nil, rfl⟩)
      | d :: more =>
        rcases exists_or more with ⟨body, value, behind, hbody, rfl⟩ | ⟨value, hbody⟩ |
          ⟨body, value, hbody, rfl⟩
        · exact .inl ⟨_, _, behind, .escaped (c := d) hbody, rfl⟩
        · exact .inr (.inl ⟨_, .escaped hbody⟩)
        · exact .inr (.inr ⟨_, _, .escaped (c := d) hbody, rfl⟩)
    · rcases exists_or rest with ⟨body, value, behind, hbody, rfl⟩ | ⟨value, hbody⟩ |
        ⟨body, value, hbody, rfl⟩
      · exact .inl ⟨_, _, behind, .plain hquote hslash hbody, rfl⟩
      · exact .inr (.inl ⟨_, .plain hquote hslash hbody⟩)
      · exact .inr (.inr ⟨_, _, .plain hquote hslash hbody, rfl⟩)
termination_by text.length

end LiteralBody

theorem stuck_of_body {body value : List Char} (h : LiteralBody body value)
    (numbers : NumberRule) : Stuck numbers ('"' :: body) := by
  refine stuck_cons_iff.mpr ⟨by decide +kernel, by decide, by decide, by decide +kernel,
    fun hdigit => absurd hdigit (by decide), fun _ first other behind hfirst => ?_⟩
  exact h.ne_append_quote hfirst behind

/-! ## 2. The text cut, carried on and closed -/

namespace PartialFactorisation

open StoppingLemmas

variable {numbers : NumberRule} {text : List Char}

/-- The division of a text that goes on with another rest. -/
def withRest (d : PartialFactorisation numbers text) {other : List Char}
    (hstuck : Stuck numbers other) (hhead : ∀ c, other.head? = some c → d.rest.head? = some c) :
    PartialFactorisation numbers (d.taken ++ other) where
  pieces := d.pieces
  gap := d.gap
  rest := other
  text_eq := (Piece.joined_append_rest d.pieces d.gap other).symm
  spelled := d.spelled
  apart := d.apart.of_head (head?_append hhead d.gap)
  blank := d.blank
  stuck := hstuck

/-- The division of a text that goes on with a lexeme and another rest. -/
def withLexeme (d : PartialFactorisation numbers text) {lexeme other : List Char} {t : Token}
    (hlexeme : Lexeme lexeme t) (hends : t.EndsBefore numbers other) (hstuck : Stuck numbers other)
    (hhead : ∀ c, (lexeme ++ other).head? = some c → d.rest.head? = some c) :
    PartialFactorisation numbers (d.taken ++ (lexeme ++ other)) where
  pieces := d.pieces ++ [⟨d.gap, lexeme, t⟩]
  gap := []
  rest := other
  text_eq := by
    rw [Piece.joined_append, Piece.joined_cons, Piece.joined_nil, taken,
      ← Piece.joined_append_rest]
    rfl
  spelled := by
    intro p hp
    rcases List.mem_append.mp hp with hp | hp
    · exact d.spelled p hp
    · obtain rfl := List.mem_singleton.mp hp
      exact ⟨d.blank, hlexeme⟩
  apart := by
    refine Piece.apart_append.mpr ⟨d.apart.of_head ?_, hends, trivial⟩
    rw [Piece.joined_cons]
    exact head?_append hhead d.gap
  blank := blank_nil
  stuck := hstuck

end PartialFactorisation

namespace Token

open PartialFactorisation

variable {numbers : NumberRule} {source : String} {text : List Char}

/-- The text up to the place where a scan stops is accepted, with the same tokens. -/
theorem locatedOfString_cut (d : PartialFactorisation numbers source.toList) :
    locatedOfString (String.ofList (source.toList.take d.stop.offset)) ⟨.strict, numbers⟩ =
      .ok d.located := by
  have htext : (String.ofList (source.toList.take d.stop.offset)).toList = d.taken ++ [] := by
    rw [String.toList_ofList, d.take_offset_stop, List.append_nil]
  refine (locatedOfString_strict_eq_ok_iff htext
    (d.withRest (stuck_nil numbers) fun c hc => ?_)).mpr ⟨rfl, rfl⟩
  cases hc

/-- Where no token begins, none begins whatever follows. -/
theorem locatedOfString_append (d : PartialFactorisation numbers source.toList) {c : Char}
    {more : List Char} (hrest : d.rest = c :: more) (hquote : c ≠ '"') (behind : String) :
    locatedOfString (source ++ behind) ⟨.strict, numbers⟩ = .error (.atScalar c d.stop) := by
  have hstuck : Stuck numbers (c :: more ++ behind.toList) :=
    Stuck.append (hrest ▸ d.stuck) hquote behind.toList
  have htext : (source ++ behind).toList = d.taken ++ (c :: more ++ behind.toList) := by
    rw [String.toList_append, ← hrest, ← List.append_assoc, d.taken_append_rest]
  refine (locatedOfString_strict_eq_error_iff htext (d.withRest hstuck fun found hfound => ?_)).mpr
    ⟨c, more ++ behind.toList, rfl, rfl⟩
  rw [hrest]
  exact hfound

/-- A literal without an end is ended by one quote, unless it ends in a backslash
that escapes nothing: that takes the first quote, and a second one ends it. -/
theorem xor_accepted_append_quote (d : PartialFactorisation numbers source.toList)
    {more : List Char} (hrest : d.rest = '"' :: more) :
    Xor (Accepted numbers (source ++ "\"")) (Accepted numbers (source ++ "\"\"")) := by
  have hopen : ∀ body value behind, LiteralBody body value → more ≠ body ++ '"' :: behind :=
    (stuck_cons_iff.mp (hrest ▸ d.stuck)).2.2.2.2.2 rfl
  have htext : ∀ behind : String,
      (source ++ behind).toList = d.taken ++ '"' :: (more ++ behind.toList) := by
    intro behind
    rw [String.toList_append, ← List.cons_append, ← hrest, ← List.append_assoc,
      d.taken_append_rest]
  have hhead : ∀ behind c, ('"' :: behind).head? = some c → d.rest.head? = some c := by
    rintro behind c ⟨⟩
    rw [hrest]
    rfl
  rcases LiteralBody.exists_or more with ⟨body, value, behind, hbody, hmore⟩ | ⟨value, hbody⟩ |
    ⟨body, value, hbody, rfl⟩
  · exact absurd hmore (hopen body value behind hbody)
  -- One quote ends the literal, and a second one begins another.
  · let one := d.withLexeme (.string hbody) trivial (stuck_nil numbers) (hhead _)
    let two := d.withLexeme (.string hbody) trivial (stuck_of_body .nil numbers) (hhead _)
    refine .inl ⟨(accepted_iff_rest ?_ one).mpr rfl, fun h => ?_⟩
    · rw [htext, List.append_nil]
      rfl
    · have hnil := (accepted_iff_rest ?_ two).mp h
      · cases hnil
      · rw [htext, List.append_assoc]
        rfl
  -- One quote is escaped, and a second one ends the literal.
  · have hlonger := hbody.append (.escaped (c := '"') .nil)
    let one := d.withRest (stuck_of_body hlonger numbers) (hhead _)
    let two := d.withLexeme (.string hlonger) trivial (stuck_nil numbers) (hhead _)
    refine .inr ⟨(accepted_iff_rest ?_ two).mpr rfl, fun h => ?_⟩
    · rw [htext, List.append_nil, List.append_assoc]
      simp
    · have hnil := (accepted_iff_rest ?_ one).mp h
      · cases hnil
      · rw [htext, List.append_assoc]
        rfl

end Token

/-! ## 3. Every strict reading -/

open Token in
/-- If a strict reading fails at a place, it accepts the text up to that place, with
the tokens that a lenient reading of the whole text answers. If the text there is not
recognized, the same error is answered whatever follows the text. If it is a literal
without an end, there is a quote at that place, and either one quote behind the text
makes it accepted or two do, but not both. If it succeeds, a lenient reading answers
the same tokens. -/
theorem Token.strict_failure_exact (source : String) (numbers : NumberRule) :
    (∀ e, locatedOfString source ⟨.strict, numbers⟩ = .error e →
      ∃ ts, locatedOfString (String.ofList (source.toList.take e.position.offset))
          ⟨.strict, numbers⟩ = .ok ts ∧
        locatedOfString source ⟨.lenient, numbers⟩ = .ok ts) ∧
    (∀ place, locatedOfString source ⟨.strict, numbers⟩ = .error (.unrecognizedInput place) →
      ∀ behind : String, locatedOfString (source ++ behind) ⟨.strict, numbers⟩ =
        .error (.unrecognizedInput place)) ∧
    (∀ place, locatedOfString source ⟨.strict, numbers⟩ = .error (.unterminatedString place) →
      source.toList[place.offset]? = some '"' ∧
        Xor (Accepted numbers (source ++ "\"")) (Accepted numbers (source ++ "\"\""))) ∧
    (∀ ts, locatedOfString source ⟨.strict, numbers⟩ = .ok ts →
      locatedOfString source ⟨.lenient, numbers⟩ = .ok ts) := by
  obtain ⟨d⟩ := PartialFactorisation.ofText numbers source.toList
  refine ⟨fun e he => ?_, fun place he behind => ?_, fun place he => ?_,
    fun ts => lenient_of_strict⟩
  · obtain ⟨c, more, -, rfl⟩ := (locatedOfString_strict_eq_error_iff rfl d).mp he
    rw [LexError.position_atScalar]
    exact ⟨_, locatedOfString_cut d, locatedOfString_lenient rfl d⟩
  · obtain ⟨c, more, hrest, herror⟩ := (locatedOfString_strict_eq_error_iff rfl d).mp he
    obtain ⟨hquote, -⟩ := LexError.atScalar_eq_unrecognizedInput_iff.mp herror
    rw [locatedOfString_append d hrest hquote, herror]
  · obtain ⟨c, more, hrest, herror⟩ := (locatedOfString_strict_eq_error_iff rfl d).mp he
    obtain ⟨rfl, rfl⟩ := LexError.atScalar_eq_unterminatedString_iff.mp herror
    refine ⟨?_, xor_accepted_append_quote d hrest⟩
    rw [← List.head?_drop, d.drop_offset_stop, hrest]
    rfl

open Token in
/-- The literal that `a "b\` ends in takes two quotes to end, and where a number has
to end the input, nothing can make `5 a` a text that is accepted. -/
theorem Token.strict_failure_exact_backslash :
    (∃ ts, locatedOfString (String.ofList ("a \"b\\".toList.take 2)) ⟨.strict, .longestRun⟩ =
        .ok ts ∧
      locatedOfString "a \"b\\" ⟨.lenient, .longestRun⟩ = .ok ts) ∧
    "a \"b\\".toList[2]? = some '"' ∧
    Xor (Accepted .longestRun ("a \"b\\" ++ "\"")) (Accepted .longestRun ("a \"b\\" ++ "\"\"")) ∧
    (∀ behind : String, locatedOfString ("5 a" ++ behind) ⟨.strict, .toEndOfInput⟩ =
      .error (.unrecognizedInput ⟨0, 1, 1⟩)) ∧
    locatedOfString "a" ⟨.lenient, .toEndOfInput⟩ =
      .ok [⟨.identifier "a", ⟨0, 1, 1⟩, ⟨1, 1, 2⟩⟩] := by
  have hliteral : locatedOfString "a \"b\\" ⟨.strict, .longestRun⟩ =
      .error (.unterminatedString ⟨2, 1, 3⟩) := by decide +kernel
  have hnumber : locatedOfString "5 a" ⟨.strict, .toEndOfInput⟩ =
      .error (.unrecognizedInput ⟨0, 1, 1⟩) := by decide +kernel
  have hword : locatedOfString "a" ⟨.strict, .toEndOfInput⟩ =
      .ok [⟨.identifier "a", ⟨0, 1, 1⟩, ⟨1, 1, 2⟩⟩] := by decide +kernel
  obtain ⟨hcut, -, hclosed, -⟩ := strict_failure_exact "a \"b\\" .longestRun
  have hcut := hcut _ hliteral
  obtain ⟨hquote, hxor⟩ := hclosed _ hliteral
  obtain ⟨-, hbehind, -, -⟩ := strict_failure_exact "5 a" .toEndOfInput
  obtain ⟨-, -, -, hlenient⟩ := strict_failure_exact "a" .toEndOfInput
  exact ⟨hcut, hquote, hxor, hbehind _ hnumber, hlenient _ hword⟩

end Scriptlet
