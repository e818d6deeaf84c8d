import Scriptlet.Proofs.Binary64.WholeNumber
import Scriptlet.Proofs.Token.Junction

/-!
# Tokens read back from their own text

A row of tokens is written out with blanks between them and read again. It comes
back as it was exactly when each of its tokens is one that a script can hold and
none runs into the next. An infinite number is the one token that a script can
hold and that is not read back: its text is the word `inf`.

Results:
1. `relexable_iff`: the tokens that are read back are those that a scan can find
   and whose text reads as themselves.
2. `relexing_exact`: the rows of tokens that are read back from their text.
-/

namespace Scriptlet

/-! ## Definitions -/

namespace Token

/-- A token that is read back from its own text: a word that is not reserved, a
whole number without a sign, or any other token. -/
def Relexable : Token → Prop
  | .identifier name =>
    (∃ first others, name.toList = first :: others ∧ isAlphabetic first = true ∧
      ∀ c ∈ others, isAlphanumeric c = true) ∧ name ≠ "let" ∧ name ≠ "print"
  | .number value => value.IsFinite ∧ value.IsWhole ∧ value.isNegative = false
  | _ => True

/-- A token that a scan can find. -/
def Scanned : Token → Prop
  | .identifier name => Relexable (.identifier name)
  | .number value => ∃ n, value = .nearest n
  | _ => True

/-- What the text of a token that a scan can find is read as. -/
def shown : Token → Token
  | .number value => if value.isInfinite then .identifier "inf" else .number value
  | t => t

end Token

namespace Row

def tokens (row : Row) : List Token := row.map Prod.snd

/-- A row as it is written out, with blanks behind the last token. -/
def text (row : Row) (last : List Char) : String :=
  String.ofList (row.flatMap (fun member => member.1 ++ member.2.text.toList) ++ last)

/-- The pieces that a row is written as. -/
def pieces (row : Row) : List Piece :=
  row.map fun member => ⟨member.1, member.2.text.toList, member.2.shown⟩

end Row

/-! ## 1. Tokens that are read back -/

namespace Token

theorem scanned_of_lexeme {text : List Char} {t : Token} (h : Lexeme text t) : t.Scanned := by
  cases h with
  | letWord | printWord | assign | plus | string => trivial
  | number _ _ hvalue => exact ⟨_, Binary64.standsFor_iff.mp hvalue⟩
  | @identifier first others hfirst hothers hlet hprint =>
    refine ⟨⟨first, others, String.toList_ofList, hfirst, hothers⟩, ?_, ?_⟩
    · exact fun h => hlet (String.ofList_inj.mp h)
    · exact fun h => hprint (String.ofList_inj.mp h)

theorem lexeme_of_identifier {name : String} (h : (identifier name).Relexable) :
    Lexeme name.toList (.identifier name) := by
  obtain ⟨⟨first, others, hname, hfirst, hothers⟩, hlet, hprint⟩ := h
  obtain rfl : name = String.ofList (first :: others) := by rw [← hname, String.ofList_toList]
  rw [String.toList_ofList]
  exact .identifier hfirst hothers (fun h => hlet (congrArg String.ofList h))
    fun h => hprint (congrArg String.ofList h)

theorem lexeme_of_number {value : Binary64} (h : (number value).Relexable) :
    Lexeme value.text.toList (.number value) := by
  obtain ⟨hfinite, hwhole, hsign⟩ := h
  obtain ⟨hne, hdigits, hvalue⟩ := value.text_of_isWhole hsign hfinite hwhole
  have hnumber := Lexeme.digits hne hdigits
  rwa [hvalue] at hnumber

theorem relexable_of_nearest {n : Nat} (h : (Binary64.nearest n).IsFinite) :
    (number (.nearest n)).Relexable :=
  ⟨h, Binary64.nearest_isWhole h, Binary64.nearest_isNegative n⟩

theorem lexeme_of_infinite {value : Binary64} (h : value.bits.toNat = Binary64.infinityBits) :
    (number value).shown = .identifier "inf" ∧
      Lexeme value.text.toList (.identifier "inf") := by
  obtain rfl := Binary64.eq_of_toNat_bits h
  refine ⟨by decide, ?_⟩
  have htext : Binary64.text ⟨UInt64.ofNat Binary64.infinityBits⟩ = "inf" := by decide +kernel
  rw [htext]
  exact lexeme_of_identifier
    ⟨⟨'i', ['n', 'f'], rfl, by decide +kernel, List.all_eq_true.mp (by decide +kernel)⟩,
      by decide, by decide⟩

theorem shown_of_isFinite {value : Binary64} (h : value.IsFinite) :
    (number value).shown = .number value := by
  rw [shown, Binary64.isInfinite_of_isFinite h]
  rfl

theorem lexeme_shown {t : Token} (h : t.Scanned) : Lexeme t.text.toList t.shown := by
  cases t with
  | letWord => exact .letWord
  | printWord => exact .printWord
  | assign => exact .assign
  | plus => exact .plus
  | identifier name => exact lexeme_of_identifier h
  | string value => exact lexeme_text_string value
  | number value =>
    obtain ⟨n, rfl⟩ := h
    rcases Binary64.nearest_isFinite_or n with hfinite | hinfinite
    · rw [shown_of_isFinite hfinite]
      exact lexeme_of_number (relexable_of_nearest hfinite)
    · obtain ⟨hshown, hlexeme⟩ := lexeme_of_infinite hinfinite
      rw [hshown]
      exact hlexeme

/-- The tokens that are read back are those that a scan can find and whose text
reads as themselves. -/
theorem relexable_iff {t : Token} : t.Relexable ↔ t.Scanned ∧ t.shown = t := by
  cases t with
  | letWord | printWord | assign | plus | string =>
    exact ⟨fun _ => ⟨trivial, rfl⟩, fun _ => trivial⟩
  | identifier name => exact ⟨fun h => ⟨h, rfl⟩, And.left⟩
  | number value =>
    constructor
    · intro h
      obtain ⟨-, -, hvalue⟩ := value.text_of_isWhole h.2.2 h.1 h.2.1
      exact ⟨⟨_, hvalue.symm⟩, shown_of_isFinite h.1⟩
    · rintro ⟨⟨n, rfl⟩, hshown⟩
      rcases Binary64.nearest_isFinite_or n with hfinite | hinfinite
      · exact relexable_of_nearest hfinite
      · rw [(lexeme_of_infinite hinfinite).1] at hshown
        cases hshown

/-! ## 2. The tokens of a text -/

theorem scan_of_listOfString {source : String} {o : Options} {ts : List Token}
    (h : listOfString source o = .ok ts) :
    (Scanner.ofString source o.numbers).scan.1.map Located.value = ts := by
  rw [listOfString, locatedOfString_eq] at h
  split at h
  · cases h
  · exact Except.ok.inj h

theorem listOfString_of_scan (source : String) (o : Options)
    (h : (Scanner.ofString source o.numbers).scan.2.input.remaining = []) :
    listOfString source o =
      .ok ((Scanner.ofString source o.numbers).scan.1.map Located.value) := by
  rw [listOfString, locatedOfString_eq, Scanner.leftover_eq_none_iff.mpr h]
  rfl

theorem scanned_of_scan {s : Scanner} {t : Token} (h : t ∈ s.scan.1.map Located.value) :
    t.Scanned := by
  obtain ⟨pieces, gap, hspelled, -, -, -, hlocated⟩ := s.exists_pieces
  rw [hlocated, Piece.map_value_locatedAll] at h
  obtain ⟨p, hp, rfl⟩ := List.mem_map.mp h
  exact scanned_of_lexeme (hspelled p hp).lexeme

theorem eq_nil_of_scan {s : Scanner} (hnumbers : s.numbers = .toEndOfInput)
    {before behind : List Token} {t : Token}
    (h : s.scan.1.map Located.value = before ++ t :: behind) (ht : t.IsNumber) : behind = [] := by
  obtain ⟨pieces, gap, hspelled, -, -, hapart, hlocated⟩ := s.exists_pieces
  rw [hlocated, Piece.map_value_locatedAll] at h
  generalize gap ++ s.scan.2.input.remaining = rest at hapart
  clear hlocated
  induction pieces generalizing before with
  | nil => exact absurd h.symm (by simp)
  | cons p pieces ih =>
    have hspelled' : ∀ q ∈ pieces, q.Spelled := (List.forall_mem_cons.mp hspelled).2
    cases before with
    | nil =>
      obtain ⟨rfl, rfl⟩ := List.cons.inj h
      have hrest := (Token.endsBefore_iff.mp hapart.1).2 ht hnumbers
      rw [((Piece.joined_eq_nil_iff hspelled').mp hrest).1]
      rfl
    | cons first before => exact ih (List.cons.inj h).2 hspelled' hapart.2

end Token

/-! ## 3. Rows of tokens -/

namespace Row

variable {row : Row} {last : List Char}

theorem toList_text (row : Row) (last : List Char) :
    (row.text last).toList = Piece.joined row.pieces last := by
  rw [text, String.toList_ofList, Piece.joined, pieces, List.flatMap_map]
  rfl

theorem spelled_pieces (hgaps : ∀ member ∈ row, Blank member.1)
    (hscanned : ∀ t ∈ row.tokens, t.Scanned) : ∀ p ∈ row.pieces, p.Spelled := by
  intro p hp
  obtain ⟨member, hmember, rfl⟩ := List.mem_map.mp hp
  exact ⟨hgaps member hmember, Token.lexeme_shown (hscanned _ (List.mem_map_of_mem hmember))⟩

theorem token_pieces (row : Row) : row.pieces.map Piece.token = row.tokens.map Token.shown := by
  rw [pieces, tokens, List.map_map, List.map_map]
  rfl

theorem spaced_pieces (h : ∀ t ∈ row.tokens, t.shown = t) : row.pieces.map Piece.spaced = row := by
  rw [pieces, List.map_map]
  refine (List.map_congr_left fun member hmember => ?_).trans (List.map_id row)
  exact congrArg (Prod.mk member.1) (h _ (List.mem_map_of_mem hmember))

/-- A row that is separated as its tokens require is read back. -/
theorem listOfString_text {o : Options} (hgaps : ∀ member ∈ row, Blank member.1)
    (hlast : Blank last) (hrelexable : ∀ t ∈ row.tokens, t.Relexable) (hseparated : row.Separated)
    (hnumbers : o.numbers = .toEndOfInput → row.NumbersLast last) :
    Token.listOfString (row.text last) o = .ok row.tokens := by
  have hshown : ∀ t ∈ row.tokens, t.shown = t := fun t ht =>
    (Token.relexable_iff.mp (hrelexable t ht)).2
  have hspelled := spelled_pieces hgaps fun t ht => (Token.relexable_iff.mp (hrelexable t ht)).1
  have hapart : Piece.Apart o.numbers row.pieces last := by
    rw [Piece.apart_iff hspelled hlast, spaced_pieces hshown]
    exact ⟨hseparated, hnumbers⟩
  have hscan := Scanner.scan_of_spelled (s := .ofString (row.text last) o.numbers)
    (toList_text row last) hspelled hapart hlast
  have hanswer := Token.listOfString_of_scan (row.text last) o (by rw [hscan])
  rw [hanswer, hscan, Piece.map_value_locatedAll, token_pieces, List.map_congr_left hshown,
    List.map_id']

/-- A row that is read back is separated as its tokens require, and each of its
tokens is one that is read back on its own. -/
theorem of_listOfString_text {o : Options} (hgaps : ∀ member ∈ row, Blank member.1)
    (hlast : Blank last) (h : Token.listOfString (row.text last) o = .ok row.tokens) :
    (∀ t ∈ row.tokens, t.Relexable) ∧ row.Separated ∧
      (o.numbers = .toEndOfInput → row.NumbersLast last) := by
  have hfound := Token.scan_of_listOfString h
  have hscanned : ∀ t ∈ row.tokens, t.Scanned := by
    intro t ht
    rw [← hfound] at ht
    exact Token.scanned_of_scan ht
  have hspelled := spelled_pieces hgaps hscanned
  -- As many tokens were found as were written, so none has run into the next.
  have hlength :
      (Scanner.ofString (row.text last) o.numbers).scan.1.length = row.pieces.length := by
    have hcount := congrArg List.length hfound
    rw [List.length_map, tokens, List.length_map] at hcount
    rw [hcount, pieces, List.length_map]
  have hapart := (Scanner.scan_length row.pieces (toList_text row last) hspelled hlast).2 hlength
  have hscan := Scanner.scan_of_spelled (s := .ofString (row.text last) o.numbers)
    (toList_text row last) hspelled hapart hlast
  rw [hscan, Piece.map_value_locatedAll, token_pieces] at hfound
  have hshown : ∀ t ∈ row.tokens, t.shown = t := by
    refine List.map_inj_left.mp (hfound.trans ?_)
    exact (List.map_id' _).symm
  have hjunctions := (Piece.apart_iff hspelled hlast).mp hapart
  rw [spaced_pieces hshown] at hjunctions
  exact ⟨fun t ht => Token.relexable_iff.mpr ⟨hscanned t ht, hshown t ht⟩, hjunctions⟩

theorem separated_of_gaps (h : ∀ member ∈ row.tail, member.1 ≠ []) : row.Separated := by
  induction row with
  | nil => exact List.isChain_nil
  | cons first row ih =>
    refine List.isChain_cons.mpr ⟨fun second hsecond hnil => ?_, ih fun member hmember => ?_⟩
    · exact absurd hnil (h second (List.mem_of_head? hsecond))
    · exact h member (List.mem_of_mem_tail hmember)

/-- The tokens of a script come back from their text, with blanks between them. -/
theorem listOfString_text_of_tokens {source : String} {o : Options}
    (h : Token.listOfString source o = .ok row.tokens)
    (hfinite : ∀ value, Token.number value ∈ row.tokens → value.IsFinite)
    (hgaps : ∀ member ∈ row, Blank member.1) (hlast : Blank last)
    (hbetween : ∀ member ∈ row.tail, member.1 ≠ []) {back : Options}
    (hback : back.numbers = .toEndOfInput → o.numbers = .toEndOfInput ∧ last = []) :
    Token.listOfString (row.text last) back = .ok row.tokens := by
  have hfound := Token.scan_of_listOfString h
  refine listOfString_text hgaps hlast (fun t ht => ?_) (separated_of_gaps hbetween) fun hrule => ?_
  · have hscanned : t.Scanned := by
      rw [← hfound] at ht
      exact Token.scanned_of_scan ht
    cases t with
    | letWord | printWord | assign | plus | string => trivial
    | identifier name => exact hscanned
    | number value =>
      obtain ⟨n, rfl⟩ := hscanned
      exact Token.relexable_of_nearest (hfinite _ ht)
  · obtain ⟨horiginal, hend⟩ := hback hrule
    rintro before number behind rfl hnumber
    have htokens : tokens (before ++ number :: behind) =
        tokens before ++ number.2 :: tokens behind := by
      rw [tokens, List.map_append, List.map_cons]
      rfl
    rw [htokens] at hfound
    have hbehind := Token.eq_nil_of_scan horiginal hfound hnumber
    exact ⟨List.map_eq_nil_iff.mp hbehind, hend⟩

end Row

/-- A row of tokens, written out with blanks of any length, is read back in either
mode exactly when each token is one that is read back on its own, no two
neighbours without blanks between them merge and, where a number has to end the
input, each number does. In particular the tokens of any script come back, their
numbers being finite, when there are blanks between all of them. -/
theorem Token.relexing_exact (o : Options) :
    (∀ (row : Row) (last : List Char), (∀ member ∈ row, Blank member.1) → Blank last →
      (Token.listOfString (row.text last) o = .ok row.tokens ↔
        (∀ t ∈ row.tokens, t.Relexable) ∧ row.Separated ∧
          (o.numbers = .toEndOfInput → row.NumbersLast last))) ∧
    (∀ (source : String) (row : Row) (last : List Char) (back : Options),
      Token.listOfString source o = .ok row.tokens →
      (∀ value, Token.number value ∈ row.tokens → value.IsFinite) →
      (∀ member ∈ row, Blank member.1) → Blank last → (∀ member ∈ row.tail, member.1 ≠ []) →
      (back.numbers = .toEndOfInput → o.numbers = .toEndOfInput ∧ last = []) →
      Token.listOfString (row.text last) back = .ok row.tokens) := by
  refine ⟨fun row last hgaps hlast => ⟨Row.of_listOfString_text hgaps hlast, ?_⟩, ?_⟩
  · rintro ⟨hrelexable, hseparated, hnumbers⟩
    exact Row.listOfString_text hgaps hlast hrelexable hseparated hnumbers
  · intro source row last back h hfinite hgaps hlast hbetween hback
    exact Row.listOfString_text_of_tokens h hfinite hgaps hlast hbetween hback

/-- The tokens of `print 7`, written out again with other blanks. -/
theorem Token.relexing_exact_print_seven :
    let row : Row := [([], .printWord), ([' '], .number (.nearest 7))]
    let spread : Row := [(['\n'], .printWord), (['\t', ' '], .number (.nearest 7))]
    Token.listOfString (row.text []) ⟨.strict, .toEndOfInput⟩ = .ok row.tokens ∧
      Token.listOfString (spread.text []) ⟨.lenient, .toEndOfInput⟩ = .ok row.tokens := by
  intro row spread
  have hblank : ∀ c ∈ ['\n', '\t', ' '], isBlank c = true :=
    List.all_eq_true.mp (by decide +kernel)
  have hnumber : (Token.number (.nearest 7)).Relexable := Token.relexable_of_nearest (by decide)
  have hrow : Token.listOfString (row.text []) ⟨.strict, .toEndOfInput⟩ = .ok row.tokens := by
    refine ((relexing_exact _).1 row [] ?_ (by simp [Blank])).mpr ⟨?_, ?_, fun _ => ?_⟩
    · simpa [row, Blank] using hblank ' ' (by simp)
    · simpa [row, Row.tokens] using ⟨trivial, hnumber⟩
    · simp [row, Row.Separated]
    · simp [row, Row.numbersLast_cons, Row.numbersLast_nil, Token.IsNumber]
  refine ⟨hrow, (relexing_exact ⟨.strict, .toEndOfInput⟩).2 (row.text []) spread [] _ hrow ?_ ?_
    (by simp [Blank]) ?_ fun _ => ⟨rfl, rfl⟩⟩
  · intro value hvalue
    simp [spread, Row.tokens] at hvalue
    subst hvalue
    decide
  · simpa [spread, Blank] using hblank
  · simp [spread]

end Scriptlet
