import Mathlib.Data.List.TakeWhile
import Scriptlet.Proofs.Token.Stopping

/-!
# The two rules for numbers

Where digits have to end the input, a scan reads what it reads without that rule
up to the first number behind which the text goes on. There it stops, whatever
stands behind that number; and if there is none, the rule makes no difference.

Results:
1. `Stuck.toEndOfInput`, `stuck_of_number`: where a scan stops under that rule.
2. `Piece.apart_toEndOfInput`: lexemes that may end under either rule may end
   under that one if each of their numbers ends the text.
3. `Token.number_rules_exact`: what is answered under one rule, from what is
   answered under the other.
-/

namespace Scriptlet

namespace Token

instance decidableIsNumber : (t : Token) → Decidable t.IsNumber
  | .number _ => .isTrue trivial
  | .letWord | .printWord | .assign | .plus | .identifier _ | .string _ => .isFalse id

end Token

namespace Located

/-- If the token is a number, it is the end of a text of this length. -/
def NumberEnds (length : Nat) (t : Located Token) : Prop :=
  t.value.IsNumber → t.span.stop.offset = length

/-- The token is a number, and a text of this length goes on behind it. -/
def NumberStopsShort (length : Nat) (t : Located Token) : Prop :=
  t.value.IsNumber ∧ t.span.stop.offset < length

instance decidableNumberEnds (length : Nat) (t : Located Token) :
    Decidable (t.NumberEnds length) :=
  inferInstanceAs (Decidable (t.value.IsNumber → t.span.stop.offset = length))

instance decidableNumberStopsShort (length : Nat) (t : Located Token) :
    Decidable (t.NumberStopsShort length) :=
  inferInstanceAs (Decidable (t.value.IsNumber ∧ t.span.stop.offset < length))

end Located

/-! ## 1. Stuck texts where numbers have to end the input -/

/-- A text that is stuck under either rule is so where numbers have to end the input. -/
theorem Stuck.toEndOfInput {numbers : NumberRule} {rest : List Char} (h : Stuck numbers rest) :
    Stuck .toEndOfInput rest where
  notBlank := h.notBlank
  noLexeme := by
    intro text t behind hlexeme htext hends
    obtain ⟨hstop, hnil⟩ := Token.endsBefore_iff.mp hends
    exact h.noLexeme text t behind hlexeme htext
      (Token.endsBefore_iff.mpr ⟨hstop, fun hnumber _ => hnil hnumber rfl⟩)

/-- A number behind which the text goes on is stuck where numbers have to end the input. -/
theorem stuck_of_number {text rest : List Char} {t : Token} (hlexeme : Lexeme text t)
    (hnumber : t.IsNumber) (hends : t.EndsBefore .longestRun rest) (hrest : rest ≠ []) :
    Stuck .toEndOfInput (text ++ rest) ∧ ∃ c more, text = c :: more ∧ c ≠ '"' := by
  have hdigits := hlexeme.continues (.inr hnumber)
  rw [Token.continues_of_isNumber hnumber] at hdigits
  obtain ⟨d, behind, rfl⟩ := List.exists_cons_of_ne_nil hrest
  have hd : d.isDigit = false := by
    have hstop := (Token.endsBefore_iff.mp hends).1 d rfl
    rwa [Token.continues_of_isNumber hnumber] at hstop
  obtain ⟨c, more, rfl⟩ := List.exists_cons_of_ne_nil (lexeme_ne_nil hlexeme)
  have hdigit := hdigits c List.mem_cons_self
  have hsign : c ≠ '=' ∧ c ≠ '+' ∧ c ≠ '"' := by
    refine ⟨?_, ?_, ?_⟩ <;> (rintro rfl; revert hdigit; decide)
  refine ⟨stuck_cons_iff.mpr ⟨?_, hsign.1, hsign.2.1, not_isAlphabetic_of_isDigit hdigit,
    fun _ => ⟨rfl, d, List.mem_append_right _ List.mem_cons_self, hd⟩,
    fun hquote => absurd hquote hsign.2.2⟩, c, more, rfl, hsign.2.2⟩
  exact RecognitionLemmas.not_isBlank_of_isAlphanumeric (isAlphanumeric_of_isDigit hdigit)

/-! ## 2. Where the tokens of pieces end -/

namespace Piece

variable {pieces : List Piece} {rest : List Char}

theorem offset_stop_lt_iff (start : Position) (first : List Piece) (p : Piece)
    (second : List Piece) (rest : List Char) :
    (p.located (start.past (first.flatMap source))).span.stop.offset <
      start.offset + (joined (first ++ p :: second) rest).length ↔ joined second rest ≠ [] := by
  have hlength : start.offset + (joined (first ++ p :: second) rest).length =
      (p.located (start.past (first.flatMap source))).span.stop.offset +
        (joined second rest).length := by
    rw [offset_stop_located, Position.offset_past, joined_append, joined, List.length_append,
      length_joined_cons, Nat.add_assoc, Nat.add_assoc]
  rw [hlength, Nat.lt_add_right_iff_pos, List.length_pos_iff]

/-- Lexemes that may end under either rule may end where numbers have to end the
input, if each of their numbers does. -/
theorem apart_toEndOfInput {numbers : NumberRule} (start : Position)
    (h : Apart numbers pieces rest)
    (hends : ∀ t ∈ locatedAll start pieces,
      t.NumberEnds (start.offset + (joined pieces rest).length)) :
    Apart .toEndOfInput pieces rest := by
  induction pieces generalizing start with
  | nil => trivial
  | cons p behind ih =>
    obtain ⟨hfirst, hbehind⟩ := List.forall_mem_cons.mp hends
    rw [length_joined_cons, ← Nat.add_assoc] at hfirst hbehind
    refine ⟨Token.endsBefore_iff.mpr ⟨(Token.endsBefore_iff.mp h.1).1, fun hnumber _ => ?_⟩,
      ih (start.past p.source) h.2 ?_⟩
    · have hstop := hfirst hnumber
      rw [offset_stop_located] at hstop
      exact List.eq_nil_of_length_eq_zero (Nat.left_eq_add.mp hstop)
    · rw [Position.offset_past]
      exact hbehind

end Piece

/-! ## 3. The answers under the two rules -/

namespace PartialFactorisation

open Piece

variable {text : List Char}

theorem length_text {numbers : NumberRule} (d : PartialFactorisation numbers text) :
    Position.start.offset + (joined d.pieces (d.gap ++ d.rest)).length = text.length := by
  rw [← d.text_eq]
  exact Nat.zero_add _

theorem numberEnds_of_not_short {numbers : NumberRule} (d : PartialFactorisation numbers text)
    {t : Located Token} (ht : t ∈ d.located) (hlong : ¬ t.NumberStopsShort text.length) :
    t.NumberEnds text.length := by
  intro hnumber
  have hle := offset_stop_le ht (d.gap ++ d.rest)
  rw [d.length_text] at hle
  exact Nat.le_antisymm hle (Nat.le_of_not_lt fun hlt => hlong ⟨hnumber, hlt⟩)

theorem exists_toEndOfInput (d : PartialFactorisation .longestRun text)
    (h : ∀ t ∈ d.located, t.NumberEnds text.length) :
    ∃ other : PartialFactorisation .toEndOfInput text,
      other.located = d.located ∧ other.rest = d.rest ∧ other.stop = d.stop := by
  refine ⟨⟨d.pieces, d.gap, d.rest, d.text_eq, d.spelled,
    apart_toEndOfInput .start d.apart ?_, d.blank, d.stuck.toEndOfInput⟩, rfl, rfl, rfl⟩
  rw [d.length_text]
  exact h

/-- Where numbers have to end the input, a division stops before the first number
that does not. -/
theorem exists_toEndOfInput_of_short (d : PartialFactorisation .longestRun text)
    {before behind : List (Located Token)} {t : Located Token}
    (htokens : d.located = before ++ t :: behind) (hshort : t.NumberStopsShort text.length)
    (hbefore : ∀ u ∈ before, u.NumberEnds text.length) :
    ∃ other : PartialFactorisation .toEndOfInput text,
      other.located = before ∧ other.stop = t.span.start ∧
        ∃ c more, other.rest = c :: more ∧ c ≠ '"' := by
  obtain ⟨first, p, second, hpieces, rfl, rfl⟩ := exists_of_locatedAll_eq htokens
  obtain ⟨hnumber, hstop⟩ := hshort
  have hp : p.Spelled := d.spelled p (by rw [hpieces]; simp)
  have hlength := d.length_text
  rw [hpieces] at hlength
  have hmore : joined second (d.gap ++ d.rest) ≠ [] := by
    rw [← offset_stop_lt_iff .start first p, hlength]
    exact hstop
  rw [joined_append, joined_cons] at hlength
  have htext : joined first (p.gap ++ (p.text ++ joined second (d.gap ++ d.rest))) = text := by
    rw [← joined_cons, ← joined_append, ← hpieces]
    exact d.text_eq.symm
  have hapart := d.apart
  rw [hpieces, apart_append, joined_cons] at hapart
  obtain ⟨hfirst, hends, -⟩ := hapart
  obtain ⟨hstuck, c, more, hcons, hquote⟩ := stuck_of_number hp.lexeme hnumber hends hmore
  refine ⟨⟨first, p.gap, p.text ++ joined second (d.gap ++ d.rest), htext.symm,
    fun q hq => d.spelled q (hpieces ▸ List.mem_append_left _ hq),
    apart_toEndOfInput .start hfirst (hlength ▸ hbefore), hp.blank, hstuck⟩, rfl, ?_,
    c, more ++ joined second (d.gap ++ d.rest), congrArg (· ++ _) hcons, hquote⟩
  rw [stop, taken, joined, Position.past_append]
  rfl

/-- Where numbers have to end the input, a division has the first tokens of the one
without that rule: all of them, or those before the first number that stops short. -/
theorem exists_toEndOfInput_prefix (d : PartialFactorisation .longestRun text) :
    ∃ other : PartialFactorisation .toEndOfInput text, other.located <+: d.located := by
  cases hfind : d.located.find? fun t => decide (t.NumberStopsShort text.length) with
  | none =>
    obtain ⟨other, hlocated, -⟩ := d.exists_toEndOfInput fun t ht =>
      d.numberEnds_of_not_short ht fun hshort =>
        List.find?_eq_none.mp hfind t ht (decide_eq_true hshort)
    exact ⟨other, hlocated ▸ List.prefix_refl _⟩
  | some t =>
    obtain ⟨hshort, before, behind, htokens, hbefore⟩ := List.find?_eq_some_iff_append.mp hfind
    obtain ⟨other, hlocated, -⟩ := d.exists_toEndOfInput_of_short htokens
      (of_decide_eq_true hshort) fun u hu =>
        d.numberEnds_of_not_short (by rw [htokens]; exact List.mem_append_left _ hu)
          (of_decide_eq_false (Bool.not_eq_true' _ ▸ hbefore u hu))
    exact ⟨other, t :: behind, by rw [hlocated, htokens]⟩

end PartialFactorisation

namespace Token

/-- With the tokens that a lenient reading answers when digits are numbers
everywhere: where numbers have to end the input, a lenient reading answers the
longest beginning of these tokens in which each number ends the text; and a strict
reading fails at the first number behind which the text goes on, or answers what it
would answer without that rule, be it tokens or an error. -/
theorem number_rules_exact (source : String) :
    ∃ ts, locatedOfString source ⟨.lenient, .longestRun⟩ = .ok ts ∧
      locatedOfString source ⟨.lenient, .toEndOfInput⟩ =
        .ok (ts.takeWhile fun t => decide (t.NumberEnds source.length)) ∧
      locatedOfString source ⟨.strict, .toEndOfInput⟩ =
        match ts.find? fun t => decide (t.NumberStopsShort source.length) with
        | some t => .error (.unrecognizedInput t.span.start)
        | none => locatedOfString source ⟨.strict, .longestRun⟩ := by
  obtain ⟨d⟩ := PartialFactorisation.ofText .longestRun source.toList
  refine ⟨d.located, locatedOfString_lenient rfl d, ?_⟩
  rw [← String.length_toList]
  cases hfind : d.located.find? fun t => decide (t.NumberStopsShort source.toList.length) with
  | none =>
    have hall : ∀ t ∈ d.located, t.NumberEnds source.toList.length := fun t ht =>
      d.numberEnds_of_not_short ht fun hshort =>
        List.find?_eq_none.mp hfind t ht (decide_eq_true hshort)
    obtain ⟨other, hlocated, hrest, hstop⟩ := d.exists_toEndOfInput hall
    have hkept : d.located.takeWhile (fun t => decide (t.NumberEnds source.toList.length)) =
        d.located := List.takeWhile_eq_self_iff.mpr fun t ht => decide_eq_true (hall t ht)
    refine ⟨?_, ?_⟩
    · rw [locatedOfString_lenient rfl other, hkept, hlocated]
    · rw [locatedOfString_of_partial rfl other, locatedOfString_of_partial rfl d, hlocated, hrest,
        hstop]
  | some t =>
    obtain ⟨hshort, before, behind, htokens, hbefore⟩ := List.find?_eq_some_iff_append.mp hfind
    have hshort : t.NumberStopsShort source.toList.length := of_decide_eq_true hshort
    have hbefore : ∀ u ∈ before, u.NumberEnds source.toList.length := fun u hu =>
      d.numberEnds_of_not_short (by rw [htokens]; exact List.mem_append_left _ hu)
        (of_decide_eq_false (Bool.not_eq_true' _ ▸ hbefore u hu))
    obtain ⟨other, hlocated, hstop, c, more, hrest, hquote⟩ :=
      d.exists_toEndOfInput_of_short htokens hshort hbefore
    have hkept : d.located.takeWhile (fun t => decide (t.NumberEnds source.toList.length)) =
        before := by
      rw [htokens, List.takeWhile_append_of_pos fun u hu => decide_eq_true (hbefore u hu),
        List.takeWhile_cons_of_neg, List.append_nil]
      exact fun hnumber => Nat.ne_of_lt hshort.2 (of_decide_eq_true hnumber hshort.1)
    refine ⟨?_, (locatedOfString_strict_eq_error_iff rfl other).mpr ⟨c, more, hrest, ?_⟩⟩
    · rw [locatedOfString_lenient rfl other, hkept, hlocated]
    · rw [hstop, LexError.atScalar, if_neg hquote]

-- The first of two numbers, although the literal behind them has no end.
example : locatedOfString "1 2 \"" ⟨.strict, .toEndOfInput⟩ =
    .error (.unrecognizedInput ⟨0, 1, 1⟩) := by decide +kernel

end Token

end Scriptlet
