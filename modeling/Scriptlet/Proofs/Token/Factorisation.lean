import Scriptlet.Proofs.Token.Recognition
import Scriptlet.Token.Stream

/-!
# How a text divides into tokens

A text divides into pieces, each of them blanks and a lexeme, with blanks behind
the last one. A lexeme may have to be a longest one: its token says what cannot
stand behind it. This makes the division the only one of its text, and it is
the one that a scan finds.

Results:
1. `scan_of_pieces`: the pieces of a text are scanned one after the other.
2. `exists_pieces`: whatever a scan reads divides into pieces.
3. `Factorisation.unique`: a text has at most one division.
4. `strict_tokens_exact`: the texts that are accepted, and their tokens.
-/

namespace Scriptlet

/-! ## Definitions -/

/-- A written token and the blanks before it. -/
structure Piece where
  gap : List Char
  text : List Char
  token : Token

namespace Piece

/-- The part of a text that a piece is. -/
def source (p : Piece) : List Char := p.gap ++ p.text

/-- A piece is blanks and a lexeme of its token. -/
structure Spelled (p : Piece) : Prop where
  blank : Blank p.gap
  lexeme : Lexeme p.text p.token

/-- The token of a piece that begins at a position, with the span of its lexeme. -/
def located (p : Piece) (start : Position) : Located Token :=
  ⟨p.token, start.past p.gap, (start.past p.gap).past p.text⟩

/-- The text of pieces and of what stands behind them. -/
def joined (pieces : List Piece) (rest : List Char) : List Char :=
  pieces.flatMap source ++ rest

/-- Every token may end where its lexeme does. -/
def Apart (numbers : NumberRule) : List Piece → List Char → Prop
  | [], _ => True
  | p :: behind, rest =>
    p.token.EndsBefore numbers (joined behind rest) ∧ Apart numbers behind rest

/-- The tokens of pieces that begin at a position. -/
def locatedAll : Position → List Piece → List (Located Token)
  | _, [] => []
  | start, p :: behind => p.located start :: locatedAll (start.past p.source) behind

end Piece

/-- A division of a text into pieces and the blanks behind them. -/
structure Factorisation (numbers : NumberRule) (text : List Char) where
  pieces : List Piece
  last : List Char
  text_eq : text = Piece.joined pieces last
  spelled : ∀ p ∈ pieces, p.Spelled
  apart : Piece.Apart numbers pieces last
  blank : Blank last

namespace Factorisation

/-- The tokens of a text that is divided, with their spans. -/
def located {numbers : NumberRule} {text : List Char} (f : Factorisation numbers text) :
    List (Located Token) :=
  Piece.locatedAll .start f.pieces

end Factorisation

/-! ## 1. Scanning pieces -/

namespace Piece

theorem joined_nil (rest : List Char) : joined [] rest = rest := rfl

theorem joined_cons (p : Piece) (behind : List Piece) (rest : List Char) :
    joined (p :: behind) rest = p.gap ++ (p.text ++ joined behind rest) := by
  rw [joined, List.flatMap_cons, source, List.append_assoc, List.append_assoc]
  rfl

theorem map_value_locatedAll (start : Position) (pieces : List Piece) :
    (locatedAll start pieces).map Located.value = pieces.map token := by
  induction pieces generalizing start with
  | nil => rfl
  | cons p behind ih => exact congrArg (p.token :: ·) (ih (start.past p.source))

theorem length_locatedAll (start : Position) (pieces : List Piece) :
    (locatedAll start pieces).length = pieces.length := by
  rw [← List.length_map Located.value, map_value_locatedAll, List.length_map]

theorem locatedAll_append (start : Position) (before : List Piece) (p : Piece)
    (behind : List Piece) :
    (locatedAll start (before ++ p :: behind))[before.length]? =
      some (p.located (start.past (before.flatMap source))) := by
  induction before generalizing start with
  | nil => rfl
  | cons first before ih =>
    rw [List.flatMap_cons, Position.past_append]
    exact ih (start.past first.source)

end Piece

namespace Scanner

open Piece

theorem next_of_piece {s : Scanner} {p : Piece} {rest : List Char}
    (hremaining : s.input.remaining = p.gap ++ (p.text ++ rest)) (hspelled : p.Spelled)
    (hends : p.token.EndsBefore s.numbers rest) :
    s.next = (some (p.located s.input.position),
      ⟨⟨rest, s.input.position.past p.source⟩, s.numbers⟩) := by
  rw [next_of_lexeme hremaining hspelled.blank hspelled.lexeme hends, Piece.source,
    Position.past_append]
  rfl

/-- Pieces are scanned one after the other. -/
theorem scan_of_pieces {s : Scanner} {pieces : List Piece} {rest : List Char}
    (hremaining : s.input.remaining = joined pieces rest) (hspelled : ∀ p ∈ pieces, p.Spelled)
    (hapart : Apart s.numbers pieces rest) :
    let behind : Scanner :=
      ⟨⟨rest, s.input.position.past (pieces.flatMap source)⟩, s.numbers⟩
    s.scan = (locatedAll s.input.position pieces ++ behind.scan.1, behind.scan.2) := by
  induction pieces generalizing s with
  | nil =>
    obtain ⟨⟨remaining, position⟩, numbers⟩ := s
    obtain rfl : remaining = rest := hremaining
    rfl
  | cons p behind ih =>
    rw [joined_cons] at hremaining
    obtain ⟨hp, hothers⟩ := List.forall_mem_cons.mp hspelled
    have hnext := next_of_piece hremaining hp hapart.1
    have hbehind := ih (s := ⟨⟨joined behind rest, s.input.position.past p.source⟩, s.numbers⟩) rfl
      hothers hapart.2
    rw [scan_eq, hnext]
    dsimp only at hbehind ⊢
    rw [hbehind, List.flatMap_cons, Position.past_append]
    rfl

theorem scan_of_blank {s : Scanner} {gap : List Char} (hremaining : s.input.remaining = gap)
    (hgap : Blank gap) : s.scan = ([], ⟨⟨[], s.input.position.past gap⟩, s.numbers⟩) := by
  rw [scan_eq, next_of_blank hremaining hgap]

/-! ## 2. What a scan reads -/

theorem exists_piece_of_next {s after : Scanner} {found : Located Token}
    (h : s.next = (some found, after)) :
    ∃ p : Piece, p.Spelled ∧ p.token.EndsBefore s.numbers after.input.remaining ∧
      Reaches s after p.source ∧ found = p.located s.input.position := by
  obtain ⟨gap, text, hgap, hlexeme, hends, hreach, hspan⟩ := next_eq_some_iff.mp h
  obtain ⟨value, span⟩ := found
  refine ⟨⟨gap, text, value⟩, ⟨hgap, hlexeme⟩, hends, hreach, ?_⟩
  rw [show span = _ from hspan, hreach.position, Position.past_append]
  rfl

/-- A scan reads pieces and blanks behind them. -/
theorem exists_pieces (s : Scanner) :
    ∃ pieces gap, (∀ p ∈ pieces, Spelled p) ∧ Blank gap ∧
      s.input.remaining = joined pieces (gap ++ s.scan.2.input.remaining) ∧
      Apart s.numbers pieces (gap ++ s.scan.2.input.remaining) ∧
      s.scan.1 = locatedAll s.input.position pieces := by
  rcases hnext : s.next with ⟨found, after⟩
  cases found with
  | none =>
    obtain ⟨rfl, -⟩ := next_none hnext
    refine ⟨[], (s.input.readWhile isBlank).1, by simp, fun c => Input.readWhile_accepts, ?_⟩
    rw [scan_eq, hnext]
    exact ⟨(s.input.readWhile_split isBlank).symm, trivial, rfl⟩
  | some token =>
    obtain ⟨p, hp, hends, hreach, rfl⟩ := exists_piece_of_next hnext
    have hlt := length_lt_of_next_some hnext
    obtain ⟨pieces, last, hspelled, hlast, htext, hapart, hlocated⟩ := exists_pieces after
    refine ⟨p :: pieces, last, List.forall_mem_cons.mpr ⟨hp, hspelled⟩, hlast, ?_⟩
    rw [scan_eq, hnext]
    dsimp only
    refine ⟨?_, ⟨?_, ?_⟩, ?_⟩
    · rw [joined_cons, ← htext, hreach.text, Piece.source, List.append_assoc]
    · rw [← htext]
      exact hends
    · rw [← hreach.numbers]
      exact hapart
    · rw [hlocated, hreach.position]
      rfl
termination_by s.input.remaining.length

theorem scan_of_spelled {s : Scanner} {pieces : List Piece} {last : List Char}
    (hremaining : s.input.remaining = joined pieces last) (hspelled : ∀ p ∈ pieces, p.Spelled)
    (hapart : Apart s.numbers pieces last) (hlast : Blank last) :
    s.scan = (locatedAll s.input.position pieces,
      ⟨⟨[], s.input.position.past (joined pieces last)⟩, s.numbers⟩) := by
  have hscan := scan_of_pieces hremaining hspelled hapart
  have hend := scan_of_blank
    (s := ⟨⟨last, s.input.position.past (pieces.flatMap source)⟩, s.numbers⟩) rfl hlast
  rw [hscan, hend, joined, Position.past_append, List.append_nil]

theorem leftover_eq_none_iff {s : Scanner} : s.leftover = none ↔ s.input.remaining = [] := by
  rw [leftover, Option.map_eq_none_iff, Input.peek, List.head?_eq_none_iff]

end Scanner

/-! ## 3. There is only one division -/

namespace Piece

theorem eq_of_joined_eq {numbers : NumberRule} {ps qs : List Piece} {last other : List Char}
    (hps : ∀ p ∈ ps, p.Spelled) (hqs : ∀ q ∈ qs, q.Spelled) (hpapart : Apart numbers ps last)
    (hqapart : Apart numbers qs other) (hlast : Blank last) (hother : Blank other)
    (h : joined ps last = joined qs other) : ps = qs ∧ last = other := by
  let s : Scanner := ⟨⟨joined ps last, .start⟩, numbers⟩
  induction ps generalizing qs with
  | nil =>
    cases qs with
    | nil => exact ⟨rfl, h⟩
    | cons q qs =>
      have hnone := Scanner.next_of_blank (s := s) rfl hlast
      rw [Scanner.next_of_piece (s := s) (h.trans (joined_cons q qs other))
        (hqs q List.mem_cons_self) hqapart.1] at hnone
      cases (Prod.mk.inj hnone).1
  | cons p ps ih =>
    obtain ⟨hp, hps⟩ := List.forall_mem_cons.mp hps
    have hsome := Scanner.next_of_piece (s := s) (joined_cons p ps last) hp hpapart.1
    cases qs with
    | nil =>
      rw [Scanner.next_of_blank (s := s) h hother] at hsome
      cases (Prod.mk.inj hsome).1
    | cons q qs =>
      obtain ⟨hq, hqs⟩ := List.forall_mem_cons.mp hqs
      have hsplit : s.input.remaining = q.gap ++ (q.text ++ joined qs other) :=
        h.trans (joined_cons q qs other)
      rw [Scanner.next_of_piece hsplit hq hqapart.1] at hsome
      obtain ⟨hfound, hbehind⟩ := Prod.mk.inj hsome
      have htoken : q.token = p.token := congrArg Located.value (Option.some.inj hfound)
      have hrest : joined qs other = joined ps last :=
        congrArg (fun after : Scanner => after.input.remaining) hbehind
      have hskip := Scanner.skipBlanks_of_lexeme (s := s) (joined_cons p ps last) hp.blank hp.lexeme
      rw [Scanner.skipBlanks_of_lexeme hsplit hq.blank hq.lexeme] at hskip
      have hbehindGap : q.text ++ joined qs other = p.text ++ joined ps last :=
        congrArg (fun after : Scanner => after.input.remaining) hskip
      have htext : q.text = p.text := List.append_cancel_right (hrest ▸ hbehindGap)
      have hgap : q.gap = p.gap := by
        rw [joined_cons, joined_cons, hbehindGap] at h
        exact (List.append_cancel_right h).symm
      obtain ⟨rfl, rfl⟩ := ih hps hqs hpapart.2 hqapart.2 hrest.symm
      obtain ⟨gap, text, token⟩ := p
      obtain ⟨gap', text', token'⟩ := q
      obtain ⟨rfl, rfl, rfl⟩ : token' = token ∧ text' = text ∧ gap' = gap := ⟨htoken, htext, hgap⟩
      exact ⟨rfl, rfl⟩

end Piece

/-- A text has at most one division. -/
theorem Factorisation.unique {numbers : NumberRule} {text : List Char}
    (f g : Factorisation numbers text) : f = g := by
  obtain ⟨ps, last, hps, hspelled, hapart, hblank⟩ := f
  obtain ⟨qs, other, hqs, hspelled', hapart', hblank'⟩ := g
  obtain ⟨rfl, rfl⟩ :=
    Piece.eq_of_joined_eq hspelled hspelled' hapart hapart' hblank hblank' (hps.symm.trans hqs)
  rfl

/-! ## 4. The texts that are accepted -/

namespace Token

theorem locatedOfString_eq (source : String) (o : Options) :
    locatedOfString source o =
      match (Scanner.ofString source o.numbers).scan.2.leftover, o.errors with
      | some error, .strict => .error error
      | _, _ => .ok (Scanner.ofString source o.numbers).scan.1 := by
  rw [locatedOfString, TokenStream.ofString]
  dsimp only
  cases (Scanner.ofString source o.numbers).scan.2.leftover with
  | none => rfl
  | some error => cases o.errors <;> rfl

/-- A strict reading answers tokens when a scan finds them and stops at the end of the text. -/
theorem locatedOfString_strict_iff {source : String} {numbers : NumberRule}
    {ts : List (Located Token)} :
    locatedOfString source ⟨.strict, numbers⟩ = .ok ts ↔
      (Scanner.ofString source numbers).scan.1 = ts ∧
        (Scanner.ofString source numbers).scan.2.input.remaining = [] := by
  rw [← Scanner.leftover_eq_none_iff, locatedOfString_eq]
  cases (Scanner.ofString source numbers).scan.2.leftover <;> simp

end Token

/-- A strict reading accepts exactly the texts that divide into blanks and
lexemes, and answers the tokens of the lexemes with their places: no word ends
before a letter or a number, no digits before a digit and, where a number has to
end the input, none before anything. Each token's span begins and ends where its
lexeme does, and there is only one such division. -/
theorem Token.strict_tokens_exact (source : String) (numbers : NumberRule) :
    (∀ ts, Token.locatedOfString source ⟨.strict, numbers⟩ = .ok ts ↔
      ∃ f : Factorisation numbers source.toList, ts = f.located) ∧
    (∀ (f : Factorisation numbers source.toList) before p behind,
      f.pieces = before ++ p :: behind →
      ∃ found, f.located[before.length]? = some found ∧ found.value = p.token ∧
        found.span.start.offset = (before.flatMap Piece.source ++ p.gap).length ∧
        found.span.stop.offset = (before.flatMap Piece.source ++ p.gap ++ p.text).length) ∧
    (∀ f g : Factorisation numbers source.toList, f = g) := by
  refine ⟨fun ts => ?_, ?_, Factorisation.unique⟩
  · rw [locatedOfString_strict_iff]
    constructor
    · rintro ⟨rfl, hend⟩
      obtain ⟨pieces, last, hspelled, hlast, htext, hapart, hlocated⟩ :=
        Scanner.exists_pieces (Scanner.ofString source numbers)
      rw [hend, List.append_nil] at htext hapart
      exact ⟨⟨pieces, last, htext, hspelled, hapart, hlast⟩, hlocated⟩
    · rintro ⟨f, rfl⟩
      have hscan := Scanner.scan_of_spelled (s := Scanner.ofString source numbers) f.text_eq
        f.spelled f.apart f.blank
      rw [hscan]
      exact ⟨rfl, rfl⟩
  · intro f before p behind hpieces
    refine ⟨p.located (Position.start.past (before.flatMap Piece.source)), ?_, rfl, ?_, ?_⟩
    · rw [Factorisation.located, hpieces]
      exact Piece.locatedAll_append .start before p behind
    · rw [Piece.located, ← Position.past_append, Position.offset_past]
      exact Nat.zero_add _
    · rw [Piece.located, ← Position.past_append, ← Position.past_append, Position.offset_past]
      exact Nat.zero_add _

/-- The division of `a +`. -/
theorem Token.strict_tokens_exact_word_sign :
    ∃ f : Factorisation .toEndOfInput "a +".toList,
      f.pieces = [⟨[], ['a'], .identifier "a"⟩] ++ [⟨[' '], ['+'], .plus⟩] ∧
      ∃ found, f.located[1]? = some found ∧ found.value = .plus ∧
        found.span.start.offset = 2 ∧ found.span.stop.offset = 3 ∧
        Token.locatedOfString "a +" ⟨.strict, .toEndOfInput⟩ = .ok f.located := by
  have hword : Lexeme ['a'] (.identifier "a") :=
    .identifier (by decide +kernel) (by simp) (by decide) (by decide)
  have hblank : Blank [' '] := fun c hc => by
    obtain rfl := List.mem_singleton.mp hc
    decide +kernel
  have hends : Token.EndsBefore .toEndOfInput (.identifier "a") [' ', '+'] := by
    rintro c ⟨⟩
    decide +kernel
  let f : Factorisation .toEndOfInput "a +".toList :=
    ⟨[⟨[], ['a'], .identifier "a"⟩, ⟨[' '], ['+'], .plus⟩], [], rfl,
      by
        intro p hp
        simp only [List.mem_cons, List.not_mem_nil, or_false] at hp
        rcases hp with rfl | rfl
        · exact ⟨by simp [Blank], hword⟩
        · exact ⟨hblank, .plus⟩,
      ⟨hends, trivial, trivial⟩, by simp [Blank]⟩
  obtain ⟨haccepts, hspans, -⟩ := strict_tokens_exact "a +" .toEndOfInput
  obtain ⟨found, hfound, hvalue, hstart, hstop⟩ := hspans f [_] ⟨[' '], ['+'], .plus⟩ [] rfl
  exact ⟨f, rfl, found, hfound, hvalue, hstart, hstop, (haccepts f.located).mpr ⟨f, rfl⟩⟩

end Scriptlet
