import Scriptlet.Proofs.Token.Stopping

/-!
# The tokens of two texts, one behind the other

A text that a strict reading accepts leaves nothing open at its end, unless its
last token reaches up to there and is a word or a number that more letters or
digits would make longer. So what stands behind such a text is read as it would
be on its own, at places that are moved: lines go on counting, and only the first
line of the second text goes on counting columns.

Results:
1. `Piece.locatedAll_movedTo`: tokens that begin elsewhere are the same tokens, moved.
2. `Scanner.scan_of_blanks`: blanks before a text only move what is scanned in it.
3. `Piece.apart_append_behind`: lexemes end before a second text if the last of
   them does.
4. `Token.locatedOfString_append_of_clean`: what is answered for both texts together.
5. `Token.concatenation_exact`: the same about both modes, each of them with its answer.
-/

namespace Scriptlet

/-! ## Definitions -/

/-- The span when the text begins at `base` and not at the start. -/
def Span.movedTo (s : Span) (base : Position) : Span :=
  ⟨s.start.movedTo base, s.stop.movedTo base⟩

/-- The value where it stands when the text begins at `base`. -/
def Located.movedTo {α : Type} (t : Located α) (base : Position) : Located α :=
  ⟨t.value, t.span.movedTo base⟩

/-- The error when the text begins at `base`. -/
def LexError.movedTo (e : LexError) (base : Position) : LexError :=
  match e with
  | .unrecognizedInput position => .unrecognizedInput (position.movedTo base)
  | .unterminatedString start => .unterminatedString (start.movedTo base)

/-- The last of these tokens does not run into the text `behind`: if it reaches up to
the end of its own text, it is no word before an alphanumeric scalar and no number
before a digit. -/
def Token.CleanBoundary (source : String) (ts : List (Located Token)) (behind : String) : Prop :=
  ∀ last c, ts.getLast? = some last → last.span.stop.offset = source.length →
    behind.toList.head? = some c →
    (last.value.IsWord → isAlphanumeric c = false) ∧ (last.value.IsNumber → c.isDigit = false)

/-! ## 1. Tokens that begin elsewhere -/

theorem LexError.movedTo_atScalar (c : Char) (position base : Position) :
    (atScalar c position).movedTo base = atScalar c (position.movedTo base) := by
  unfold atScalar
  split <;> rfl

namespace Piece

theorem located_movedTo (p : Piece) (before : List Char) (base : Position) :
    (p.located (Position.start.past before)).movedTo base = p.located (base.past before) := by
  rw [located, located, Located.movedTo, Span.movedTo]
  simp only [← Position.past_append, Position.movedTo_start_past]

theorem locatedAll_movedTo (pieces : List Piece) (before : List Char) (base : Position) :
    (locatedAll (Position.start.past before) pieces).map (·.movedTo base) =
      locatedAll (base.past before) pieces := by
  induction pieces generalizing before with
  | nil => rfl
  | cons p behind ih =>
    rw [locatedAll, locatedAll, List.map_cons, located_movedTo, ← Position.past_append, ih,
      Position.past_append]

end Piece

/-! ## 2. Blanks before a text -/

namespace Scanner

theorem skipBlanks_of_blanks {s : Scanner} {gap rest : List Char}
    (hremaining : s.input.remaining = gap ++ rest) (hgap : Blank gap) :
    s.skipBlanks =
      (⟨⟨rest, s.input.position.past gap⟩, s.numbers⟩ : Scanner).skipBlanks := by
  simp only [skipBlanks, Input.readWhile_eq, withInput]
  rw [hremaining, List.takeWhile_append_of_pos hgap, List.dropWhile_append_of_pos hgap,
    Position.past_append]

/-- Blanks before a text only move what is scanned in it. -/
theorem scan_of_blanks {s : Scanner} {gap rest : List Char}
    (hremaining : s.input.remaining = gap ++ rest) (hgap : Blank gap) :
    s.scan = (⟨⟨rest, s.input.position.past gap⟩, s.numbers⟩ : Scanner).scan := by
  have hnext : s.next = (⟨⟨rest, s.input.position.past gap⟩, s.numbers⟩ : Scanner).next := by
    unfold next
    rw [skipBlanks_of_blanks hremaining hgap]
  rw [scan_eq, hnext, ← scan_eq]

end Scanner

/-! ## 3. Lexemes before a second text -/

namespace Piece

/-- Lexemes that may end before blanks may end before these and a second text, if the
last of them may end before that text where no blanks keep it from it. -/
theorem apart_append_behind {numbers : NumberRule} {pieces : List Piece} {gap behind : List Char}
    (hspelled : ∀ p ∈ pieces, p.Spelled) (hapart : Apart numbers pieces gap)
    (hlast : ∀ p, pieces.getLast? = some p → gap = [] → p.token.EndsBefore numbers behind) :
    Apart numbers pieces (gap ++ behind) := by
  induction pieces with
  | nil => trivial
  | cons p pieces ih =>
    have hpieces : ∀ q ∈ pieces, q.Spelled := (List.forall_mem_cons.mp hspelled).2
    refine ⟨?_, ih hpieces hapart.2 fun q hq => hlast q (by rw [List.getLast?_cons, hq]; rfl)⟩
    rw [joined_append_rest]
    by_cases hnil : joined pieces gap = []
    · obtain ⟨rfl, rfl⟩ := (joined_eq_nil_iff hpieces).mp hnil
      exact hlast p rfl rfl
    · refine hapart.1.of_head fun c hc => ?_
      rwa [List.head?_append_of_ne_nil _ hnil] at hc

end Piece

/-! ## 4. Both texts together -/

namespace PartialFactorisation

variable {numbers : NumberRule} {text : List Char}

theorem taken_of_rest (d : PartialFactorisation numbers text) (h : d.rest = []) :
    d.taken = text := by
  have htext := d.taken_append_rest
  rwa [h, List.append_nil] at htext

theorem stop_of_rest (d : PartialFactorisation numbers text) (h : d.rest = []) :
    d.stop = Position.start.past text := congrArg Position.start.past (d.taken_of_rest h)

theorem exists_getLast?_located (d : PartialFactorisation numbers text) {p : Piece}
    (hp : d.pieces.getLast? = some p) (hgap : d.gap = []) (hrest : d.rest = []) :
    ∃ last, d.located.getLast? = some last ∧ last.value = p.token ∧
      last.span.stop.offset = text.length := by
  obtain ⟨first, hfirst⟩ := List.getLast?_eq_some_iff.mp hp
  have hlength : d.located.length = first.length + 1 := by
    rw [located, Piece.length_locatedAll, hfirst, List.length_append, List.length_singleton]
  have hlast := Piece.locatedAll_append .start first p []
  rw [← hfirst] at hlast
  refine ⟨p.located (Position.start.past (first.flatMap Piece.source)), ?_, rfl, ?_⟩
  · rw [List.getLast?_eq_getElem?, hlength]
    exact hlast
  · have hwhole := congrArg List.length d.text_eq
    rw [hgap, hrest, hfirst, Piece.joined_append, Piece.joined, List.length_append,
      Piece.length_joined_cons] at hwhole
    rw [Piece.offset_stop_located, Position.offset_start_past]
    exact hwhole.symm

/-- A scan of two texts reads the pieces of the first one, whose lexemes end before the
second, and then what it would read in the second text on its own, moved. -/
theorem scan_append (d : PartialFactorisation numbers text) (hrest : d.rest = [])
    {behind : List Char} (hapart : Piece.Apart numbers d.pieces (d.gap ++ behind))
    (e : PartialFactorisation numbers behind) :
    (⟨⟨text ++ behind, .start⟩, numbers⟩ : Scanner).scan =
      (d.located ++ e.located.map (·.movedTo d.stop),
        ⟨⟨e.rest, e.stop.movedTo d.stop⟩, numbers⟩) := by
  have htext : text ++ behind = Piece.joined d.pieces (d.gap ++ behind) :=
    (congrArg (· ++ behind) (d.taken_of_rest hrest).symm).trans
      (Piece.joined_append_rest d.pieces d.gap behind).symm
  have hplace : (Position.start.past (d.pieces.flatMap Piece.source)).past d.gap = d.stop :=
    (Position.past_append _ _ _).symm
  have hpieces := Scanner.scan_of_pieces (s := ⟨⟨text ++ behind, .start⟩, numbers⟩) htext d.spelled
    hapart
  -- The last blanks of the first text are read on the way to the second.
  have hblanks := Scanner.scan_of_blanks
    (s := ⟨⟨d.gap ++ behind, Position.start.past (d.pieces.flatMap Piece.source)⟩, numbers⟩) rfl
    d.blank
  have hbehind := Scanner.scan_of_partial (s := ⟨⟨behind, d.stop⟩, numbers⟩) e
  have hmoved : e.located.map (·.movedTo d.stop) = Piece.locatedAll d.stop e.pieces :=
    Piece.locatedAll_movedTo e.pieces [] d.stop
  dsimp only at hpieces hblanks hbehind
  rw [hpieces, hblanks, hplace, hbehind, hmoved, stop, stop, Position.movedTo_start_past]
  rfl

end PartialFactorisation

namespace Token

variable {numbers : NumberRule} {first second : String}

/-- What is answered for two texts together, if the lexemes of the first end before the
second: the tokens of the first and the tokens of the second, moved, or the error of the
second, moved. -/
theorem locatedOfString_append_of_apart (d : PartialFactorisation numbers first.toList)
    (hrest : d.rest = []) (hapart : Piece.Apart numbers d.pieces (d.gap ++ second.toList))
    (errors : Strictness) :
    locatedOfString (first ++ second) ⟨errors, numbers⟩ =
      match locatedOfString second ⟨errors, numbers⟩ with
      | .ok us => .ok (d.located ++ us.map (·.movedTo d.stop))
      | .error e => .error (e.movedTo d.stop) := by
  obtain ⟨e⟩ := PartialFactorisation.ofText numbers second.toList
  have hstart : Scanner.ofString (first ++ second) numbers =
      ⟨⟨first.toList ++ second.toList, .start⟩, numbers⟩ := by
    rw [Scanner.ofString, Input.ofString, String.toList_append]
  rw [locatedOfString_eq, hstart, d.scan_append hrest hapart e, locatedOfString_of_partial rfl e]
  unfold Scanner.leftover Input.peek
  cases e.rest with
  | nil => rfl
  | cons c more =>
    cases errors with
    | lenient => rfl
    | strict => exact congrArg Except.error (LexError.movedTo_atScalar c e.stop d.stop).symm

theorem apart_of_cleanBoundary (d : PartialFactorisation .longestRun first.toList)
    (hrest : d.rest = []) (hclean : CleanBoundary first d.located second) :
    Piece.Apart .longestRun d.pieces (d.gap ++ second.toList) := by
  have hapart := d.apart
  rw [hrest, List.append_nil] at hapart
  refine Piece.apart_append_behind d.spelled hapart fun p hp hgap => ?_
  obtain ⟨last, hlast, hvalue, hstop⟩ := d.exists_getLast?_located hp hgap hrest
  rw [String.length_toList] at hstop
  refine endsBefore_iff.mpr ⟨fun c hc => ?_, fun _ hrule => nomatch hrule⟩
  obtain ⟨hword, hnumber⟩ := hclean last c hlast hstop hc
  rw [hvalue] at hword hnumber
  by_cases hp : p.token.IsWord
  · rw [continues_of_isWord hp, hword hp]
  · by_cases hn : p.token.IsNumber
    · rw [continues_of_isNumber hn, hnumber hn]
    · exact (endsBefore_iff.mp (endsBefore_of_not hp hn .longestRun second.toList)).1 c hc

/-- What is answered in either mode for two texts together, the first one accepted by a
strict reading and ending cleanly before the second. -/
theorem locatedOfString_append_of_clean {ts : List (Located Token)}
    (h : locatedOfString first ⟨.strict, .longestRun⟩ = .ok ts)
    (hclean : CleanBoundary first ts second) (errors : Strictness) :
    locatedOfString (first ++ second) ⟨errors, .longestRun⟩ =
      match locatedOfString second ⟨errors, .longestRun⟩ with
      | .ok us => .ok (ts ++ us.map (·.movedTo (Position.start.past first.toList)))
      | .error e => .error (e.movedTo (Position.start.past first.toList)) := by
  obtain ⟨d⟩ := PartialFactorisation.ofText .longestRun first.toList
  obtain ⟨hrest, rfl⟩ := (locatedOfString_strict_eq_ok_iff rfl d).mp h
  rw [← d.stop_of_rest hrest]
  exact locatedOfString_append_of_apart d hrest (apart_of_cleanBoundary d hrest hclean) errors

/-! ## 5. Boundaries at which texts can be put together -/

/-- If a strict reading accepts a text and the last token of the text does not run into
a second one, then both together are read like each on its own: the tokens of the first,
and behind them the tokens of the second, moved to the place behind the first text. A
strict reading answers the error of the second text, moved likewise, if there is one. -/
theorem concatenation_exact {first second : String} {ts : List (Located Token)}
    (h : locatedOfString first ⟨.strict, .longestRun⟩ = .ok ts)
    (hclean : CleanBoundary first ts second) :
    let stop := Position.start.past first.toList
    (locatedOfString (first ++ second) ⟨.strict, .longestRun⟩ =
      match locatedOfString second ⟨.strict, .longestRun⟩ with
      | .ok us => .ok (ts ++ us.map (·.movedTo stop))
      | .error e => .error (e.movedTo stop)) ∧
    ∃ us, locatedOfString second ⟨.lenient, .longestRun⟩ = .ok us ∧
      locatedOfString (first ++ second) ⟨.lenient, .longestRun⟩ =
        .ok (ts ++ us.map (·.movedTo stop)) := by
  intro stop
  refine ⟨locatedOfString_append_of_clean h hclean .strict, ?_⟩
  obtain ⟨e⟩ := PartialFactorisation.ofText .longestRun second.toList
  have hsecond := locatedOfString_lenient rfl e
  have hread := locatedOfString_append_of_clean h hclean .lenient
  rw [hsecond] at hread
  exact ⟨e.located, hsecond, hread⟩

/-- A text whose last line has two scalars, before a word on that line, an unfinished
literal on the next, and both. -/
theorem concatenation_exact_two_lines :
    let first := "a\n7"
    let second := "b\n \"c"
    let ts : List (Located Token) := [⟨.identifier "a", ⟨0, 1, 1⟩, ⟨1, 1, 2⟩⟩,
      ⟨.number (.ofDigits ['7']), ⟨2, 2, 1⟩, ⟨3, 2, 2⟩⟩]
    locatedOfString first ⟨.strict, .longestRun⟩ = .ok ts ∧ CleanBoundary first ts second ∧
      locatedOfString (first ++ second) ⟨.strict, .longestRun⟩ =
        .error (.unterminatedString ⟨6, 3, 2⟩) ∧
      locatedOfString (first ++ second) ⟨.lenient, .longestRun⟩ =
        .ok (ts ++ [⟨.identifier "b", ⟨3, 2, 2⟩, ⟨4, 2, 3⟩⟩]) := by
  intro first second ts
  have hfirst : locatedOfString first ⟨.strict, .longestRun⟩ = .ok ts := by decide +kernel
  have hclean : CleanBoundary first ts second := by
    have hhead : second.toList.head? = some 'b' := by decide
    rintro last c ⟨⟩ - hc
    obtain rfl := Option.some.inj (hhead.symm.trans hc)
    exact ⟨False.elim, fun _ => by decide⟩
  obtain ⟨hstrict, us, hus, hlenient⟩ := concatenation_exact hfirst hclean
  have herror : locatedOfString second ⟨.strict, .longestRun⟩ =
      .error (.unterminatedString ⟨3, 2, 2⟩) := by decide +kernel
  have hword : locatedOfString second ⟨.lenient, .longestRun⟩ =
      .ok [⟨.identifier "b", ⟨0, 1, 1⟩, ⟨1, 1, 2⟩⟩] := by decide +kernel
  obtain rfl := Except.ok.inj (hus.symm.trans hword)
  have hstop : Position.start.past first.toList = ⟨3, 2, 2⟩ := by decide
  rw [herror, hstop] at hstrict
  rw [hstop] at hlenient
  exact ⟨hfirst, hclean, hstrict, hlenient⟩

end Token

end Scriptlet
