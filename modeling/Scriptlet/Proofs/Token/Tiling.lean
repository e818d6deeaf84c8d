import Scriptlet.Proofs.Token.Stopping

/-!
# The parts of a text that its tokens cover

The spans of the tokens of a text are parts of that text, in order and with
nothing but blanks between them, and both ends of a span are the places that one
passes on a walk over the text. A token depends on nothing outside its span: the
part of the text that it covers, read alone, is that token.

Results:
1. `PartialFactorisation.exists_of_mem_located`: a token stands at its lexeme.
2. `Token.locatedOfString_of_lexeme`: a lexeme read alone is its token.
3. `Piece.pairwise_locatedAll`, `Piece.isBlank_of_not_covered`: the order of the
   spans and what stands outside them.
4. `Token.spans_tile_source`: all of this about every reading that succeeds.
-/

namespace Scriptlet

/-! ## Definitions -/

namespace Span

/-- The scalar with this number lies in the span. -/
def Covers (s : Span) (i : Nat) : Prop := s.start.offset ≤ i ∧ i < s.stop.offset

instance decidableCovers (s : Span) (i : Nat) : Decidable (s.Covers i) :=
  inferInstanceAs (Decidable (s.start.offset ≤ i ∧ i < s.stop.offset))

/-- The part of a text that a span covers. -/
def slice (s : Span) (text : List Char) : List Char :=
  (text.drop s.start.offset).take (s.stop.offset - s.start.offset)

end Span

/-! ## 1. Where a token stands -/

namespace Position

theorem take_offset_past (text behind : List Char) :
    (text ++ behind).take (start.past text).offset = text := by
  rw [offset_start_past, List.take_left]

end Position

namespace Span

theorem slice_past (before text behind : List Char) :
    slice ⟨Position.start.past before, Position.start.past (before ++ text)⟩
      (before ++ text ++ behind) = text := by
  rw [slice, Position.offset_start_past, Position.offset_start_past, List.append_assoc,
    List.drop_left, List.length_append, Nat.add_sub_cancel_left, List.take_left]

end Span

namespace PartialFactorisation

variable {numbers : NumberRule} {text : List Char}

/-- A token stands at a lexeme of the text, and its span begins and ends there. -/
theorem exists_of_mem_located (d : PartialFactorisation numbers text) {t : Located Token}
    (ht : t ∈ d.located) :
    ∃ before lexeme behind, text = before ++ lexeme ++ behind ∧ Lexeme lexeme t.value ∧
      t.value.EndsBefore numbers behind ∧
      t.span = ⟨Position.start.past before, Position.start.past (before ++ lexeme)⟩ := by
  obtain ⟨earlier, later, htokens⟩ := List.append_of_mem ht
  obtain ⟨first, p, second, hpieces, -, rfl⟩ := Piece.exists_of_locatedAll_eq htokens
  have hapart := d.apart
  rw [hpieces, Piece.apart_append] at hapart
  refine ⟨first.flatMap Piece.source ++ p.gap, p.text, Piece.joined second (d.gap ++ d.rest), ?_,
    (d.spelled p (by rw [hpieces]; simp)).lexeme, hapart.2.1, ?_⟩
  · refine d.text_eq.trans ?_
    rw [hpieces, Piece.joined_append, Piece.joined_cons, Piece.joined]
    simp only [List.append_assoc]
  · rw [Piece.located, Position.past_append _ _ p.text, Position.past_append]

theorem offset_start_lt (d : PartialFactorisation numbers text) {t : Located Token}
    (ht : t ∈ d.located) : t.span.start.offset < t.span.stop.offset := by
  obtain ⟨before, lexeme, behind, -, hlexeme, -, hspan⟩ := d.exists_of_mem_located ht
  rw [hspan, Position.offset_start_past, Position.offset_start_past, List.length_append]
  exact Nat.lt_add_of_pos_right (List.length_pos_iff.mpr (lexeme_ne_nil hlexeme))

end PartialFactorisation

/-! ## 2. Lexemes read alone -/

section

variable {text : List Char} {t : Token}

theorem Piece.joined_lexeme (text : List Char) (t : Token) :
    joined [⟨[], text, t⟩] [] = text :=
  (joined_cons ⟨[], text, t⟩ [] []).trans (List.append_nil text)

theorem Piece.spelled_lexeme (h : Lexeme text t) :
    ∀ p ∈ [(⟨[], text, t⟩ : Piece)], p.Spelled :=
  List.forall_mem_singleton.mpr ⟨blank_nil, h⟩

/-- The division of a lexeme that stands alone. -/
def PartialFactorisation.ofLexeme {numbers : NumberRule} (h : Lexeme text t)
    (hends : t.EndsBefore numbers []) : PartialFactorisation numbers text where
  pieces := [⟨[], text, t⟩]
  gap := []
  rest := []
  text_eq := (Piece.joined_lexeme text t).symm
  spelled := Piece.spelled_lexeme h
  apart := ⟨hends, trivial⟩
  blank := blank_nil
  stuck := stuck_nil numbers

/-- A lexeme read alone is its token, in either mode. -/
theorem Token.locatedOfString_of_lexeme {o : Options} (h : Lexeme text t)
    (hends : t.EndsBefore o.numbers []) :
    locatedOfString (String.ofList text) o =
      .ok [⟨t, Position.start, Position.start.past text⟩] :=
  locatedOfString_of_partial String.toList_ofList (.ofLexeme h hends) o.errors

end

/-! ## 3. The order of spans and what stands outside them -/

namespace Piece

variable {pieces : List Piece}

theorem le_offset_start {start : Position} {t : Located Token} (ht : t ∈ locatedAll start pieces) :
    start.offset ≤ t.span.start.offset := by
  induction pieces generalizing start with
  | nil => cases ht
  | cons p behind ih =>
    rcases List.mem_cons.mp ht with rfl | ht
    · exact (Position.offset_past start p.gap).symm ▸ Nat.le_add_right _ _
    · have hle := ih ht
      rw [Position.offset_past] at hle
      exact Nat.le_trans (Nat.le_add_right _ _) hle

/-- Each token ends before the next begins. -/
theorem pairwise_locatedAll (start : Position) (pieces : List Piece) :
    (locatedAll start pieces).Pairwise fun s t => s.span.stop.offset ≤ t.span.start.offset := by
  induction pieces generalizing start with
  | nil => exact .nil
  | cons p behind ih =>
    refine .cons (fun t ht => ?_) (ih (start.past p.source))
    rw [offset_stop_located, ← Position.offset_past]
    exact le_offset_start ht

/-- What stands outside the spans of the tokens is blank, up to where the pieces end. -/
theorem isBlank_of_not_covered (start : Position) {rest : List Char} {i : Nat} {c : Char}
    (hspelled : ∀ p ∈ pieces, p.Spelled) (hc : (joined pieces rest)[i]? = some c)
    (hout : ∀ t ∈ locatedAll start pieces, ¬ t.span.Covers (start.offset + i)) :
    isBlank c = true ∨ (pieces.flatMap source).length ≤ i := by
  induction pieces generalizing start i with
  | nil => exact .inr (Nat.zero_le i)
  | cons p behind ih =>
    obtain ⟨hp, hbehind⟩ := List.forall_mem_cons.mp hspelled
    obtain ⟨hfirst, hlater⟩ := List.forall_mem_cons.mp hout
    rcases Nat.lt_or_ge i p.source.length with hlt | hge
    · rcases Nat.lt_or_ge i p.gap.length with hgap | hgap
      · rw [joined_cons, List.getElem?_append_left hgap] at hc
        exact .inl (hp.blank c (List.mem_of_getElem? hc))
      · refine absurd ⟨?_, ?_⟩ hfirst
        · exact (Position.offset_past start p.gap).symm ▸ Nat.add_le_add_left hgap _
        · rw [offset_stop_located]
          exact Nat.add_lt_add_left hlt _
    · have hsplit : joined (p :: behind) rest = p.source ++ joined behind rest := by
        rw [joined_cons, source, List.append_assoc]
      rw [hsplit, List.getElem?_append_right hge] at hc
      have hplace : (start.past p.source).offset + (i - p.source.length) = start.offset + i := by
        rw [Position.offset_past, Nat.add_assoc, Nat.add_sub_cancel' hge]
      rw [← hplace] at hlater
      refine (ih _ hbehind hc hlater).imp_right fun hlength => ?_
      rw [List.flatMap_cons, List.length_append]
      exact Nat.add_le_of_le_sub' hge hlength

end Piece

/-- Outside the spans of its tokens, a text is blank up to where a scan of it stops. -/
theorem PartialFactorisation.isBlank_of_not_covered {numbers : NumberRule} {text : List Char}
    (d : PartialFactorisation numbers text) {i : Nat} {c : Char} (hc : text[i]? = some c)
    (hout : ∀ t ∈ d.located, ¬ t.span.Covers i)
    (hin : d.rest = [] ∨ ∃ t ∈ d.located, i < t.span.start.offset) : isBlank c = true := by
  rw [d.text_eq] at hc
  rcases Piece.isBlank_of_not_covered .start d.spelled hc (by simpa [Position.start])
    with hblank | hlength
  · exact hblank
  · rcases hin with hrest | ⟨t, ht, hlt⟩
    · rw [Piece.joined, List.getElem?_append_right hlength, hrest, List.append_nil] at hc
      exact d.blank c (List.mem_of_getElem? hc)
    · have hstop := Piece.offset_stop_le ht []
      rw [Piece.joined, List.append_nil] at hstop
      have hstart := d.offset_start_lt ht
      have hzero : Position.start.offset = 0 := rfl
      omega

/-! ## 4. Every reading that succeeds -/

namespace Token

/-- When a reading succeeds, the spans of its tokens are not empty, each ends before
the next begins, and what stands outside them is blank: before the first span, between
two spans and, in a strict reading, behind the last. The ends of a span are the places
behind as many scalars of the text as their offsets say. And what a span covers, read
alone in the same way, is its token, whose span is then all of it. -/
theorem spans_tile_source {source : String} {o : Options} {ts : List (Located Token)}
    (h : locatedOfString source o = .ok ts) :
    (∀ t ∈ ts, t.span.start.offset < t.span.stop.offset ∧
      t.span.stop.offset ≤ source.length) ∧
    ts.Pairwise (fun s t => s.span.stop.offset ≤ t.span.start.offset) ∧
    (∀ i c, source.toList[i]? = some c → (∀ t ∈ ts, ¬ t.span.Covers i) →
      (o.errors = .strict ∨ ∃ t ∈ ts, i < t.span.start.offset) → isBlank c = true) ∧
    ∀ t ∈ ts,
      t.span.start = Position.start.past (source.toList.take t.span.start.offset) ∧
      t.span.stop = Position.start.past (source.toList.take t.span.stop.offset) ∧
      locatedOfString (String.ofList (t.span.slice source.toList)) o =
        .ok [⟨t.value, Position.start, Position.start.past (t.span.slice source.toList)⟩] := by
  obtain ⟨errors, numbers⟩ := o
  obtain ⟨d⟩ := PartialFactorisation.ofText numbers source.toList
  obtain ⟨hrest, rfl⟩ : (errors = .strict → d.rest = []) ∧ d.located = ts := by
    cases errors with
    | strict =>
      obtain ⟨hrest, hlocated⟩ := (locatedOfString_strict_eq_ok_iff rfl d).mp h
      exact ⟨fun _ => hrest, hlocated⟩
    | lenient =>
      rw [locatedOfString_lenient rfl d] at h
      exact ⟨fun hstrict => (nomatch hstrict), Except.ok.inj h⟩
  refine ⟨fun t ht => ⟨d.offset_start_lt ht, ?_⟩, Piece.pairwise_locatedAll .start d.pieces,
    fun i c hc hout hin => d.isBlank_of_not_covered hc hout (hin.imp_left hrest), fun t ht => ?_⟩
  · obtain ⟨before, lexeme, behind, htext, -, -, hspan⟩ := d.exists_of_mem_located ht
    rw [hspan, Position.offset_start_past, ← String.length_toList, htext]
    exact (List.prefix_append _ behind).length_le
  · obtain ⟨before, lexeme, behind, htext, hlexeme, hends, hspan⟩ := d.exists_of_mem_located ht
    have hslice : t.span.slice source.toList = lexeme := by
      rw [hspan, htext, Span.slice_past]
    refine ⟨?_, ?_, ?_⟩
    · rw [hspan, htext, List.append_assoc, Position.take_offset_past]
    · rw [hspan, htext, Position.take_offset_past]
    · rw [hslice]
      exact locatedOfString_of_lexeme hlexeme (hends.of_head fun c hc => by cases hc)

/-- The spans of a word and, on the next line, a literal that holds a line feed itself,
behind which a lenient reading drops what is no token. -/
theorem spans_tile_source_two_lines :
    let source := "é\n \"x\ny\" ?"
    let literal : Located Token := ⟨.string "x\ny", ⟨3, 2, 2⟩, ⟨8, 3, 3⟩⟩
    locatedOfString source ⟨.lenient, .longestRun⟩ =
        .ok [⟨.identifier "é", ⟨0, 1, 1⟩, ⟨1, 1, 2⟩⟩, literal] ∧
      isBlank '\n' = true ∧ literal.span.stop = Position.start.past (source.toList.take 8) ∧
      locatedOfString (String.ofList (literal.span.slice source.toList))
        ⟨.lenient, .longestRun⟩ = .ok [⟨.string "x\ny", ⟨0, 1, 1⟩, ⟨5, 2, 3⟩⟩] := by
  intro source literal
  have hread : locatedOfString source ⟨.lenient, .longestRun⟩ =
      .ok [⟨.identifier "é", ⟨0, 1, 1⟩, ⟨1, 1, 2⟩⟩, literal] := by decide +kernel
  obtain ⟨-, -, hblank, hplaces⟩ := spans_tile_source hread
  obtain ⟨-, hstop, halone⟩ := hplaces literal (by simp)
  have hend : Position.start.past (literal.span.slice source.toList) = ⟨5, 2, 3⟩ := by decide
  rw [hend] at halone
  have hgap := hblank 1 '\n' (by decide) (by decide) (.inr ⟨literal, by simp, by decide⟩)
  exact ⟨hread, hgap, hstop, halone⟩

end Token

end Scriptlet
