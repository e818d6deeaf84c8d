import Mathlib.Data.List.Basic
import Scriptlet.Proofs.Binary64.WholeNumber
import Scriptlet.Proofs.Source.Address

/-!
# Numbers shown for inspection

The number of a numeral is whole or infinite. Where it is inspected it is written out in
full below `10 ^ 16`, with a point and a zero behind it, and with an exponent from there
on. In both notations the shortest decimal can be read off, and it denotes the number.

Results:
1. `scientific_inj`, `positional_inj`: what the two notations tell.
2. `render_inspected_inj`: the two notations are never confused.
3. `nearest_inspect_inj`: two numbers of numerals that are shown alike are the same.
-/

namespace Scriptlet

namespace Decimal

/-! ## Definitions -/

/-- Digits with a point behind the first of them, if there are more. -/
def mantissa : List Char → List Char
  | first :: second :: rest => first :: '.' :: second :: rest
  | digits => digits

/-- The scalars of a text without an exponent. -/
def DigitOrPoint (c : Char) : Prop := c.isDigit = true ∨ c = '.'

/-! ## 1. What the two notations tell -/

theorem mantissa_inj {digits digits' : List Char} (h : mantissa digits = mantissa digits') :
    digits = digits' := by
  unfold mantissa at h
  grind

theorem mem_mantissa {digits : List Char} {c : Char} (h : c ∈ mantissa digits) :
    c ∈ digits ∨ c = '.' := by
  unfold mantissa at h
  grind

theorem scientific_eq (d : Decimal) : d.scientific =
    mantissa (Nat.toDigits 10 d.digits) ++ 'e' :: (toString d.leadingExponent).toList := by
  unfold scientific mantissa
  cases Nat.toDigits 10 d.digits with
  | nil => rfl
  | cons first rest => cases rest <;> rfl

theorem not_digitOrPoint : ¬ DigitOrPoint 'e' ∧ ¬ DigitOrPoint 'i' ∧ ¬ DigitOrPoint '\n' := by
  unfold DigitOrPoint
  decide

theorem digitOrPoint_toDigits {n : Nat} {c : Char} (h : c ∈ Nat.toDigits 10 n) :
    DigitOrPoint c :=
  .inl (Nat.isDigit_of_mem_toDigits (by decide) (by decide) h)

theorem digitOrPoint_mantissa {n : Nat} {c : Char} (h : c ∈ mantissa (Nat.toDigits 10 n)) :
    DigitOrPoint c :=
  (mem_mantissa h).elim digitOrPoint_toDigits .inr

section WithoutFraction

variable {d d' : Decimal} (h : 0 ≤ d.exponent) (h' : 0 ≤ d'.exponent)

include h

theorem leadingExponent_nonneg : 0 ≤ d.leadingExponent := by
  have hpos := List.length_pos_iff.mpr (Nat.toDigits_ne_nil (n := d.digits) (b := 10))
  unfold leadingExponent
  omega

theorem scientific_of_nonneg : d.scientific =
    mantissa (Nat.toDigits 10 d.digits) ++ 'e' :: Nat.toDigits 10 d.leadingExponent.toNat := by
  obtain ⟨exponent, hexponent⟩ := Int.eq_ofNat_of_zero_le (leadingExponent_nonneg h)
  have htext : (toString (exponent : Int)).toList = Nat.toDigits 10 exponent := Nat.toList_repr
  rw [scientific_eq, hexponent, htext, Int.toNat_natCast]

theorem positional_of_nonneg : d.positional true =
    Nat.toDigits 10 d.digits ++ List.replicate d.exponent.toNat '0' ++ ['.', '0'] := by
  unfold positional
  rw [if_pos h]
  rfl

theorem digitOrPoint_positional {c : Char} (hmem : c ∈ d.positional true) : DigitOrPoint c := by
  rw [positional_of_nonneg h] at hmem
  cases List.mem_append.mp hmem with
  | inl hmem =>
    cases List.mem_append.mp hmem with
    | inl hdigit => exact digitOrPoint_toDigits hdigit
    | inr hzero =>
      obtain rfl := (List.mem_replicate.mp hzero).2
      exact .inl rfl
  | inr hmem =>
    cases hmem with
    | head => exact .inr rfl
    | tail _ hzero =>
      obtain rfl := List.mem_singleton.mp hzero
      exact .inl rfl

include h'

/-- The notation with an exponent tells the decimal. -/
theorem scientific_inj (heq : d.scientific = d'.scientific) : d = d' := by
  have hmantissa : 'e' ∉ mantissa (Nat.toDigits 10 d.digits) :=
    fun hmem => not_digitOrPoint.1 (digitOrPoint_mantissa hmem)
  have hexponent : 'e' ∉ Nat.toDigits 10 d.leadingExponent.toNat :=
    fun hmem => not_digitOrPoint.1 (digitOrPoint_toDigits hmem)
  have hlead := leadingExponent_nonneg h
  have hlead' := leadingExponent_nonneg h'
  rw [scientific_of_nonneg h, scientific_of_nonneg h'] at heq
  obtain ⟨hdigits, -, hleading⟩ :=
    (List.append_cons_inj_of_notMem hmantissa hexponent).mp heq
  have hdigits : d.digits = d'.digits :=
    Position.AddressLemmas.toDigits_inj.mp (mantissa_inj hdigits)
  have hleading := Position.AddressLemmas.toDigits_inj.mp hleading
  -- The first digits have the same value, and equally many digits follow.
  have hexponent : d.exponent = d'.exponent := by
    unfold leadingExponent at hleading hlead hlead'
    rw [hdigits] at hleading hlead
    omega
  show Decimal.mk d.digits d.exponent = ⟨d'.digits, d'.exponent⟩
  rw [hdigits, hexponent]

/-- The notation in full tells the number that the decimal denotes. -/
theorem positional_inj (heq : d.positional true = d'.positional true) :
    d.digits * 10 ^ d.exponent.toNat = d'.digits * 10 ^ d'.exponent.toNat := by
  rw [positional_of_nonneg h, positional_of_nonneg h'] at heq
  rw [← decimalValue_toDigits, ← decimalValue_toDigits, List.append_cancel_right heq]

/-! ## 2. The notation for inspection -/

theorem positional_ne_scientific : d.positional true ≠ d'.scientific := by
  intro heq
  refine not_digitOrPoint.1 (digitOrPoint_positional h ?_)
  rw [heq, scientific_of_nonneg h']
  exact List.mem_append_cons_self

/-- Of a decimal that is inspected, the number that it denotes can be read off. -/
theorem render_inspected_inj (heq : d.render .inspected = d'.render .inspected) :
    d.digits * 10 ^ d.exponent.toNat = d'.digits * 10 ^ d'.exponent.toNat := by
  unfold render at heq
  split at heq
  · split at heq
    · exact positional_inj h h' heq
    · exact absurd heq (positional_ne_scientific h h')
  · split at heq
    · exact absurd heq.symm (positional_ne_scientific h' h)
    · rw [scientific_inj h h' heq]

omit h'

theorem mem_render_inspected {c : Char} (hmem : c ∈ d.render .inspected) :
    DigitOrPoint c ∨ c = 'e' := by
  unfold render at hmem
  split at hmem
  · exact .inl (digitOrPoint_positional h hmem)
  · rw [scientific_of_nonneg h] at hmem
    cases List.mem_append.mp hmem with
    | inl hmantissa => exact .inl (digitOrPoint_mantissa hmantissa)
    | inr hmem =>
      cases hmem with
      | head => exact .inr rfl
      | tail _ hdigit => exact .inl (digitOrPoint_toDigits hdigit)

end WithoutFraction

end Decimal

/-! ## 3. The numbers of numerals -/

namespace Binary64

theorem inspect_of_isFinite {x : Binary64} (hsign : x.isNegative = false) (hfinite : x.IsFinite) :
    x.inspect = String.ofList (x.shortest.render .inspected) := by
  rw [inspect, render, isNaN_of_isFinite hfinite, isInfinite_of_isFinite hfinite, hsign]
  rfl

/-- The number of a numeral is infinite, or it is shown by a decimal without a fraction that
denotes it. -/
theorem nearest_inspect (n : Nat) :
    (nearest n = ⟨UInt64.ofNat infinityBits⟩ ∧ (nearest n).inspect.toList = ['i', 'n', 'f']) ∨
    ∃ d : Decimal, 0 ≤ d.exponent ∧ nearest (d.digits * 10 ^ d.exponent.toNat) = nearest n ∧
      (nearest n).inspect.toList = d.render .inspected := by
  cases nearest_isFinite_or n with
  | inl hfinite =>
    have hsign := nearest_isNegative n
    obtain ⟨hexponent, hnearest⟩ := nearest_shortest hsign hfinite (nearest_isWhole hfinite)
    refine .inr ⟨_, hexponent, hnearest, ?_⟩
    rw [inspect_of_isFinite hsign hfinite, String.toList_ofList]
  | inr hbits =>
    have hinfinite := eq_of_toNat_bits hbits
    refine .inl ⟨hinfinite, ?_⟩
    rw [hinfinite]
    decide +kernel

theorem render_ne_inf {d : Decimal} (h : 0 ≤ d.exponent) :
    d.render .inspected ≠ ['i', 'n', 'f'] := by
  intro heq
  have hmem : 'i' ∈ d.render .inspected := heq ▸ List.mem_cons_self
  cases Decimal.mem_render_inspected h hmem with
  | inl hdigit => exact Decimal.not_digitOrPoint.2.1 hdigit
  | inr he => exact absurd he (by decide)

/-- Two numbers of numerals that are shown alike are the same. -/
theorem nearest_inspect_inj {m n : Nat} (h : (nearest m).inspect = (nearest n).inspect) :
    nearest m = nearest n := by
  have h := congrArg String.toList h
  obtain ⟨hm, htext⟩ | ⟨d, hd, hm, htext⟩ := nearest_inspect m
  · obtain ⟨hn, -⟩ | ⟨d', hd', -, htext'⟩ := nearest_inspect n
    · rw [hm, hn]
    · exact absurd (htext'.symm.trans (h.symm.trans htext)) (render_ne_inf hd')
  · obtain ⟨-, htext'⟩ | ⟨d', hd', hn, htext'⟩ := nearest_inspect n
    · exact absurd (htext.symm.trans (h.trans htext')) (render_ne_inf hd)
    · rw [htext, htext'] at h
      rw [← hm, ← hn, Decimal.render_inspected_inj hd hd' h]

theorem newline_notMem_inspect (n : Nat) : '\n' ∉ (nearest n).inspect.toList := by
  obtain ⟨-, htext⟩ | ⟨d, hd, -, htext⟩ := nearest_inspect n
  · rw [htext]
    decide
  · rw [htext]
    intro hmem
    cases Decimal.mem_render_inspected hd hmem with
    | inl hdigit => exact Decimal.not_digitOrPoint.2.2 hdigit
    | inr he => exact absurd he (by decide)

end Binary64

end Scriptlet
