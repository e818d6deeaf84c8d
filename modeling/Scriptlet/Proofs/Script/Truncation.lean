import Scriptlet.Proofs.Program.Leniency
import Scriptlet.Proofs.Token.Stopping
import Scriptlet.Script

/-!
# What a lenient reading of a script drops

A lenient reading of a script leaves out the end of its text and nothing else. A
text that is cut behind one of its tokens has the tokens up to there: no word and
no digits get shorter, and digits that end the whole text end the cut one. So the
program of a lenient reading is what a strict reading makes of the text up to the
last token of the program.

Results:
1. `Token.locatedOfString_extent`: the tokens of a text that is cut behind a token.
2. `Program.lenient_truncates`: the result of a lenient reading.
-/

namespace Scriptlet

/-! ## 1. A text that is cut behind a token -/

/-- The offset at which the last of the first `n` tokens ends, the start of the text
if there are none. -/
def Token.extent (ts : List (Located Token)) : Nat → Nat
  | 0 => 0
  | last + 1 => (ts[last]?.map fun t => t.span.stop.offset).getD 0

/-- The division of a text that is cut behind some of its pieces. -/
def PartialFactorisation.cut {numbers : NumberRule} {text : List Char}
    (d : PartialFactorisation numbers text) {first second : List Piece}
    (hpieces : d.pieces = first ++ second) :
    PartialFactorisation numbers (Piece.joined first []) where
  pieces := first
  gap := []
  rest := []
  text_eq := rfl
  spelled := fun p hp => d.spelled p (hpieces ▸ List.mem_append_left second hp)
  apart := by
    have hapart := d.apart
    rw [hpieces, Piece.apart_append] at hapart
    refine hapart.1.of_head fun c hc => ?_
    cases hc
  blank := blank_nil
  stuck := stuck_nil numbers

namespace Token

theorem extent_locatedAll (first second : List Piece) :
    extent (Piece.locatedAll .start (first ++ second)) first.length =
      (Piece.joined first []).length := by
  rcases List.eq_nil_or_concat first with rfl | ⟨before, p, rfl⟩
  · rfl
  · have hlast := Piece.locatedAll_append .start before p second
    rw [List.concat_eq_append, List.append_assoc, List.singleton_append, List.length_append,
      List.length_singleton, extent, hlast, Piece.joined_append, Piece.joined_cons]
    rw [Option.map_some, Option.getD_some, Piece.offset_stop_located, Position.offset_past]
    simp [Piece.joined, Piece.source, Position.start]

/-- A text that is cut behind one of its tokens has the tokens up to there. -/
theorem locatedOfString_extent {source : String} {numbers : NumberRule}
    {ts : List (Located Token)} (h : locatedOfString source ⟨.lenient, numbers⟩ = .ok ts) {n : Nat}
    (hn : n ≤ ts.length) :
    locatedOfString (String.ofList (source.toList.take (extent ts n))) ⟨.strict, numbers⟩ =
      .ok (ts.take n) := by
  obtain ⟨d⟩ := PartialFactorisation.ofText numbers source.toList
  rw [locatedOfString_lenient rfl d] at h
  obtain rfl := Except.ok.inj h
  have hpieces : d.pieces = d.pieces.take n ++ d.pieces.drop n := (List.take_append_drop n _).symm
  have hlength : (d.pieces.take n).length = n := by
    rw [List.length_take, Nat.min_eq_left]
    rwa [PartialFactorisation.located, Piece.length_locatedAll] at hn
  have hextent : extent d.located n = (Piece.joined (d.pieces.take n) []).length := by
    have hfirst := extent_locatedAll (d.pieces.take n) (d.pieces.drop n)
    rwa [hlength, ← hpieces] at hfirst
  have htext : source.toList =
      Piece.joined (d.pieces.take n) [] ++ Piece.joined (d.pieces.drop n) (d.gap ++ d.rest) := by
    rw [← Piece.joined_append_rest, List.nil_append, ← Piece.joined_append, ← hpieces]
    exact d.text_eq
  refine (locatedOfString_strict_eq_ok_iff ?_ (d.cut hpieces)).mpr
    ⟨rfl, Piece.locatedAll_take .start d.pieces n⟩
  rw [String.toList_ofList, hextent]
  exact (congrArg (List.take _) htext).trans List.take_left

end Token

/-! ## 2. The result of a lenient reading -/

namespace Program

/-- A lenient reading of a text gives a program. Its tokens are the first ones of the
text, and a strict reading of the text up to the end of the last of them gives the
same program. If a strict reading of the whole text gives a program, a lenient one
gives that too. -/
theorem lenient_truncates (source : String) (numbers : NumberRule) :
    (∃ p ts, ofString source ⟨.lenient, numbers⟩ = .ok p ∧
      Token.locatedOfString source ⟨.lenient, numbers⟩ = .ok ts ∧
      (ts.take p.tokens.length).map Located.value = p.tokens ∧
      ofString (String.ofList (source.toList.take (Token.extent ts p.tokens.length)))
        ⟨.strict, numbers⟩ = .ok p) ∧
    ∀ p, ofString source ⟨.strict, numbers⟩ = .ok p →
      ofString source ⟨.lenient, numbers⟩ = .ok p := by
  constructor
  · obtain ⟨d⟩ := PartialFactorisation.ofText numbers source.toList
    have hlocated := Token.locatedOfString_lenient rfl d
    obtain ⟨p, rest, hp, hvalues, hends⟩ := exists_program (d.located.map Located.value)
    have hfirst : (d.located.take p.tokens.length).map Located.value = p.tokens := by
      rw [List.map_take, hvalues, List.take_left]
    have hlength : p.tokens.length ≤ d.located.length := by
      rw [← List.length_map Located.value, hvalues, List.length_append]
      exact Nat.le_add_right _ _
    refine ⟨p, d.located, ofString_eq_ok_iff.mpr ⟨d.located, hlocated, ?_⟩, hlocated, hfirst,
      ofString_eq_ok_iff.mpr ⟨_, Token.locatedOfString_extent hlocated hlength, ?_⟩⟩
    · rw [hvalues, ofTokens_eq hp hends, if_pos (.inr rfl)]
    · rw [hfirst]
      exact (ofTokens_strict_iff _ _).mpr ⟨hp, rfl⟩
  · intro p hp
    obtain ⟨ts, hlocated, hread⟩ := ofString_eq_ok_iff.mp hp
    exact ofString_eq_ok_iff.mpr ⟨ts, Token.lenient_of_strict hlocated, lenient_of_strict hread⟩

/-- What a lenient reading makes of `print a + "` is read up to the `a`, and what a
strict one makes of `print a + 1` is kept. -/
theorem lenient_truncates_sum :
    ofString "print a + \"" ⟨.lenient, .longestRun⟩ = .ok ⟨[.print (.reference "a")]⟩ ∧
    ofString (String.ofList ("print a + \"".toList.take 7)) ⟨.strict, .longestRun⟩ =
      .ok ⟨[.print (.reference "a")]⟩ ∧
    ofString "print a + 1" ⟨.lenient, .longestRun⟩ =
      .ok ⟨[.print (.addition (.reference "a") (.number (.ofDigits ['1'])))]⟩ := by
  have hread : ofString "print a + \"" ⟨.lenient, .longestRun⟩ =
      .ok ⟨[.print (.reference "a")]⟩ := by decide +kernel
  have htokens : Token.locatedOfString "print a + \"" ⟨.lenient, .longestRun⟩ =
      .ok [⟨.printWord, ⟨0, 1, 1⟩, ⟨5, 1, 6⟩⟩, ⟨.identifier "a", ⟨6, 1, 7⟩, ⟨7, 1, 8⟩⟩,
        ⟨.plus, ⟨8, 1, 9⟩, ⟨9, 1, 10⟩⟩] := by decide +kernel
  have hstrict : ofString "print a + 1" ⟨.strict, .longestRun⟩ =
      .ok ⟨[.print (.addition (.reference "a") (.number (.ofDigits ['1'])))]⟩ := by decide +kernel
  obtain ⟨⟨p, ts, hp, hts, -, hcut⟩, -⟩ := lenient_truncates "print a + \"" .longestRun
  obtain rfl := Except.ok.inj (hread.symm.trans hp)
  obtain rfl := Except.ok.inj (htokens.symm.trans hts)
  exact ⟨hp, hcut, (lenient_truncates "print a + 1" .longestRun).2 _ hstrict⟩

end Program

end Scriptlet
