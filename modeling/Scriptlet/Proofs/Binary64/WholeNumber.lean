import Scriptlet.Binary64.Text
import Scriptlet.Proofs.Binary64.Rounding

/-!
# Whole numbers and their text

A finite double without a sign and without a fraction is written as a run of
digits, and the number that these digits denote rounds to that double. The
digits need not be those of the double itself: they are the fewest in its
rounding interval, with zeros behind them.

Results:
1. `roundsTo_of_holds`: a natural number in the interval of a double rounds to it.
2. `text_of_isWhole`: the text of a whole number is a run of digits that denotes it.
3. `nearest_isWhole`: a natural number rounds to a whole number or to infinity.
-/

namespace Scriptlet

namespace Binary64

/-! ## Definitions -/

/-- The factor between quarters of the last place and units of the interval. -/
def intervalPlace (x : Binary64) : Nat :=
  if 0 ≤ x.exponent - 2 then 1 <<< (x.exponent - 2).toNat else Nat.pow 5 (-(x.exponent - 2)).toNat

/-- How far below the value its lower boundary lies, in quarters of the last place. -/
def quartersBelow (x : Binary64) : Nat := if x.hasCloseLower then 1 else 2

/-! ## 1. The pattern of a double without a sign -/

section Pattern

variable {x : Binary64} (hsign : x.isNegative = false)

include hsign

theorem bits_lt : x.bits.toNat < signBit := Nat.lt_of_not_le (of_decide_eq_false hsign)

theorem exponentField_eq : x.exponentField = x.bits.toNat / hiddenBit := by
  have hbits : x.bits.toNat < (topField + 1) * hiddenBit := bits_lt hsign
  rw [exponentField, Nat.mod_eq_of_lt ((Nat.div_lt_iff_lt_mul hiddenBit_pos).mpr hbits)]

theorem bits_lt_of_isFinite (hfinite : x.IsFinite) : x.bits.toNat < infinityBits := by
  have hfield : x.bits.toNat / hiddenBit < topField := by
    rw [← exponentField_eq hsign]
    exact Nat.lt_of_le_of_ne x.exponentField_le hfinite
  exact (Nat.div_lt_iff_lt_mul hiddenBit_pos).mp hfield

theorem exponentField_eq_zero_iff : x.exponentField = 0 ↔ x.bits.toNat < hiddenBit := by
  rw [exponentField_eq hsign, Nat.div_eq_zero_iff_lt hiddenBit_pos]

theorem lastPlace_bits : lastPlace x.bits.toNat = 2 ^ (x.exponentField - 1) := by
  rw [lastPlace, exponentField_eq hsign]

theorem significand_eq : x.significand =
    if x.bits.toNat < hiddenBit then x.bits.toNat else hiddenBit + x.bits.toNat % hiddenBit := by
  simp only [significand, exponentField_eq_zero_iff hsign, fraction]
  split
  · rename_i hsub
    exact Nat.mod_eq_of_lt hsub
  · rfl

theorem magnitude_bits :
    magnitude x.bits.toNat = x.significand * 2 ^ (x.exponentField - 1) := by
  rw [magnitude, ← significand_eq hsign, lastPlace_bits hsign]

theorem significand_parity : x.significand % 2 = x.bits.toNat % 2 := by
  rw [significand_eq hsign, hiddenBit_eq]
  split <;> omega

theorem significand_pos (hzero : x.bits.toNat ≠ 0) : 0 < x.significand := by
  rw [significand_eq hsign]
  split
  · exact Nat.pos_of_ne_zero hzero
  · exact Nat.add_pos_left hiddenBit_pos _

/-- The place below the first double of an exponent is half of the place above it. -/
theorem lastPlace_pred (hzero : x.bits.toNat ≠ 0) :
    2 * lastPlace (x.bits.toNat - 1) = x.quartersBelow * 2 ^ (x.exponentField - 1) := by
  have hfield := exponentField_eq hsign
  have hpos : 0 < x.bits.toNat := Nat.pos_of_ne_zero hzero
  rw [quartersBelow, lastPlace]
  split
  · rename_i hclose
    obtain ⟨hfraction, hexponent⟩ := Bool.and_eq_true_iff.mp hclose
    have hfraction : x.bits.toNat % hiddenBit = 0 := eq_of_beq hfraction
    have hexponent : 1 < x.exponentField := of_decide_eq_true hexponent
    have hpred : (x.bits.toNat - 1) / hiddenBit = x.exponentField - 1 := by
      rw [hfield]
      rw [hiddenBit_eq] at *
      omega
    obtain ⟨lower, hlower⟩ := Nat.exists_eq_add_of_lt hexponent
    rw [hpred, hlower, Nat.one_mul, ← Nat.pow_succ']
    congr 1
    omega
  · rename_i hclose
    have hpred : (x.bits.toNat - 1) / hiddenBit - 1 = x.exponentField - 1 := by
      have hapart : x.bits.toNat % hiddenBit ≠ 0 ∨ x.exponentField ≤ 1 := by
        rcases Nat.lt_or_ge 1 x.exponentField with hlt | hle
        · refine .inl fun hfraction => hclose (Bool.and_eq_true_iff.mpr ⟨?_, ?_⟩)
          · exact beq_iff_eq.mpr hfraction
          · exact decide_eq_true hlt
        · exact .inr hle
      rw [hfield] at hapart ⊢
      rw [hiddenBit_eq] at *
      omega
    rw [hpred]

/-- The lower boundary, in quarters of the last place. -/
theorem two_mul_boundary (hzero : x.bits.toNat ≠ 0) :
    2 * boundary x.bits.toNat =
      (4 * x.significand - x.quartersBelow) * 2 ^ (x.exponentField - 1) := by
  obtain ⟨lower, hlower⟩ := Nat.exists_eq_succ_of_ne_zero hzero
  have hpred := lastPlace_pred hsign hzero
  have hmagnitude := magnitude_bits hsign
  rw [hlower, Nat.succ_sub_one] at hpred
  rw [hlower, magnitude_succ] at hmagnitude
  rw [hlower, boundary_succ, Nat.sub_mul, ← hpred, Nat.mul_assoc, ← hmagnitude]
  omega

theorem two_mul_boundary_succ :
    2 * boundary (x.bits.toNat + 1) = (4 * x.significand + 2) * 2 ^ (x.exponentField - 1) := by
  rw [boundary_succ, magnitude_bits hsign, lastPlace_bits hsign, Nat.add_mul]
  rw [Nat.mul_assoc 4]
  omega

end Pattern

/-! ## 2. The interval of a double -/

section Interval

theorem tenTo_eq (k : Nat) : tenTo k = 2 ^ k * 5 ^ k := Nat.mul_pow 2 5 k

theorem roundingInterval_scale (x : Binary64) :
    x.roundingInterval.scale = (-(x.exponent - 2)).toNat := rfl

theorem roundingInterval_low (x : Binary64) :
    x.roundingInterval.low = (4 * x.significand - x.quartersBelow) * x.intervalPlace := rfl

theorem roundingInterval_high (x : Binary64) :
    x.roundingInterval.high = (4 * x.significand + 2) * x.intervalPlace := rfl

theorem roundingInterval_value (x : Binary64) :
    x.roundingInterval.value = 4 * x.significand * x.intervalPlace := rfl

theorem exponent_sub_two (x : Binary64) :
    x.exponent - 2 = ((x.exponentField - 1 : Nat) : Int) - 1076 := by
  rw [exponent]
  split <;> omega

theorem two_pow_le_units {k : Nat} (m : Nat) (h : k ≤ m + 2) :
    2 ^ (m + 2 - k) * 2 ^ k = 4 * 2 ^ m := by
  rw [← Nat.pow_add, Nat.sub_add_cancel h, Nat.pow_add, Nat.mul_comm]

theorem two_pow_ge_units {k : Nat} (m : Nat) (h : m + 2 ≤ k) :
    2 ^ (k - (m + 2)) * (4 * 2 ^ m) = 2 ^ k := by
  rw [Nat.mul_comm 4, ← Nat.pow_add 2 m 2, ← Nat.pow_add, Nat.sub_add_cancel h]

/-- Units of the interval and units of the boundaries have a common multiple. -/
theorem exists_common_multiple (x : Binary64) :
    ∃ c d, 0 < c ∧ 0 < d ∧ x.intervalPlace * c = 2 ^ (x.exponentField - 1) * d ∧
      tenTo x.roundingInterval.scale * c = 4 * unitsOfOne * d := by
  have hexponent := x.exponent_sub_two
  rcases Nat.lt_or_ge (x.exponentField - 1) (1074 + 2) with hlt | hge
  · have hscale : x.roundingInterval.scale = 1074 + 2 - (x.exponentField - 1) := by
      rw [roundingInterval_scale]
      omega
    have hplace : x.intervalPlace = 5 ^ (1074 + 2 - (x.exponentField - 1)) := by
      rw [intervalPlace, if_neg (by omega), ← hscale]
      rfl
    have hunits := two_pow_le_units 1074 (Nat.le_of_lt hlt)
    refine ⟨2 ^ (x.exponentField - 1), 5 ^ (1074 + 2 - (x.exponentField - 1)), Nat.two_pow_pos _,
      Nat.pow_pos (by decide), ?_, ?_⟩
    · rw [hplace, Nat.mul_comm]
    · rw [hscale, unitsOfOne, ← hunits, tenTo_eq, Nat.mul_right_comm]
  · have hscale : x.roundingInterval.scale = 0 := by
      rw [roundingInterval_scale]
      omega
    have hplace : x.intervalPlace = 2 ^ (x.exponentField - 1 - (1074 + 2)) := by
      rw [intervalPlace, if_pos (by omega), Nat.one_shiftLeft]
      exact congrArg (2 ^ ·) (by omega)
    have hone : tenTo 0 = 1 := rfl
    refine ⟨4 * unitsOfOne, 1, Nat.mul_pos (by decide) unitsOfOne_pos, Nat.one_pos, ?_, ?_⟩
    · rw [hplace, unitsOfOne, two_pow_ge_units 1074 hge, Nat.mul_one]
    · rw [hscale, hone, Nat.one_mul, Nat.mul_one]

/-- Quarters of the last place and natural numbers compare in the interval as they do on the line
of the doubles. -/
theorem intervalPlace_le_iff (x : Binary64) (quarters n : Nat) :
    (quarters * x.intervalPlace ≤ n * tenTo x.roundingInterval.scale ↔
      quarters * 2 ^ (x.exponentField - 1) ≤ 2 * halfUnits n) ∧
    (n * tenTo x.roundingInterval.scale ≤ quarters * x.intervalPlace ↔
      2 * halfUnits n ≤ quarters * 2 ^ (x.exponentField - 1)) := by
  obtain ⟨c, d, hc, hd, hplace, hscale⟩ := x.exists_common_multiple
  have hquarters : quarters * x.intervalPlace * c = quarters * 2 ^ (x.exponentField - 1) * d := by
    rw [Nat.mul_assoc, hplace, Nat.mul_assoc]
  have hn : n * tenTo x.roundingInterval.scale * c = 2 * halfUnits n * d := by
    have hhalf : 2 * halfUnits n = n * (4 * unitsOfOne) := by
      rw [halfUnits, Nat.mul_left_comm n 4, ← Nat.mul_assoc 2, ← Nat.mul_assoc 2 2,
        Nat.mul_assoc (2 * 2)]
    rw [Nat.mul_assoc, hscale, hhalf, Nat.mul_assoc n]
  constructor
  · rw [← Nat.mul_le_mul_right_iff hc, hquarters, hn, Nat.mul_le_mul_right_iff hd]
  · rw [← Nat.mul_le_mul_right_iff hc, hquarters, hn, Nat.mul_le_mul_right_iff hd]

theorem intervalPlace_pos (x : Binary64) : 0 < x.intervalPlace := by
  rw [intervalPlace]
  split
  · rw [Nat.one_shiftLeft]
    exact Nat.two_pow_pos _
  · exact Nat.pow_pos (by decide)

theorem quartersBelow_pos (x : Binary64) : 0 < x.quartersBelow := by
  rw [quartersBelow]
  split <;> decide

theorem holds_value {x : Binary64} (hpos : 0 < x.significand) :
    x.roundingInterval.holds x.roundingInterval.value = true := by
  have hlow : x.roundingInterval.low < x.roundingInterval.value := by
    rw [roundingInterval_low, roundingInterval_value]
    refine Nat.mul_lt_mul_of_pos_right (Nat.sub_lt ?_ x.quartersBelow_pos) x.intervalPlace_pos
    exact Nat.mul_pos (by decide) hpos
  have hhigh : x.roundingInterval.value < x.roundingInterval.high := by
    rw [roundingInterval_high, roundingInterval_value]
    exact Nat.mul_lt_mul_of_pos_right (Nat.lt_add_of_pos_right (by decide)) x.intervalPlace_pos
  rw [RoundingInterval.holds]
  split
  · exact Bool.and_eq_true_iff.mpr
      ⟨decide_eq_true (Nat.le_of_lt hlow), decide_eq_true (Nat.le_of_lt hhigh)⟩
  · exact Bool.and_eq_true_iff.mpr ⟨decide_eq_true hlow, decide_eq_true hhigh⟩

/-- A natural number in the interval of a double rounds to it. -/
theorem roundsTo_of_holds {x : Binary64} (hsign : x.isNegative = false)
    (hzero : x.bits.toNat ≠ 0) {n : Nat}
    (h : x.roundingInterval.holds (n * tenTo x.roundingInterval.scale) = true) :
    RoundsTo x.bits.toNat (halfUnits n) := by
  have hlower := two_mul_boundary hsign hzero
  have hupper := two_mul_boundary_succ hsign
  obtain ⟨hlow, hlow'⟩ := x.intervalPlace_le_iff (4 * x.significand - x.quartersBelow) n
  obtain ⟨hhigh, hhigh'⟩ := x.intervalPlace_le_iff (4 * x.significand + 2) n
  rw [← roundingInterval_low, ← hlower] at hlow hlow'
  rw [← roundingInterval_high, ← hupper] at hhigh hhigh'
  rw [RoundingInterval.holds] at h
  split at h
  · rename_i hclosed
    obtain ⟨habove, hbelow⟩ := Bool.and_eq_true_iff.mp h
    have habove := hlow.mp (of_decide_eq_true habove)
    have hbelow := hhigh'.mp (of_decide_eq_true hbelow)
    refine ⟨by omega, by omega, fun hodd => ?_⟩
    have heven : x.significand % 2 = 0 := eq_of_beq hclosed
    rw [significand_parity hsign, hodd] at heven
    cases heven
  · obtain ⟨habove, hbelow⟩ := Bool.and_eq_true_iff.mp h
    have habove : ¬ 2 * halfUnits n ≤ 2 * boundary x.bits.toNat :=
      fun hle => Nat.not_le.mpr (of_decide_eq_true habove) (hlow'.mpr hle)
    have hbelow : ¬ 2 * boundary (x.bits.toNat + 1) ≤ 2 * halfUnits n :=
      fun hle => Nat.not_le.mpr (of_decide_eq_true hbelow) (hhigh.mpr hle)
    exact ⟨by omega, by omega, fun _ => ⟨by omega, by omega⟩⟩

end Interval

end Binary64

/-! ## 3. Digits without a fraction -/

namespace RoundingInterval

/-- The search stops at the latest where the value itself is a multiple. -/
theorem le_search {i : RoundingInterval} (hvalue : i.holds i.value = true) {power : Nat}
    (hdvd : tenTo power ∣ i.value) (k : Nat) (hk : power ≤ k) : power ≤ (i.search k).2 := by
  induction k with
  | zero => exact hk
  | succ k ih =>
    unfold search
    dsimp only
    split
    · exact hk
    · exact hk
    · exact hk
    · rename_i hbelow _
      refine ih (Nat.le_of_lt_succ (Nat.lt_of_le_of_ne hk ?_))
      rintro rfl
      rw [Nat.div_mul_cancel hdvd, hvalue] at hbelow
      cases hbelow

theorem two_pow_le_ten_pow (k : Nat) : 2 ^ (k * 33 / 10) ≤ 10 ^ k := by
  rw [← Nat.pow_le_pow_iff_left (n := 10) (by decide)]
  calc (2 ^ (k * 33 / 10)) ^ 10 = 2 ^ (k * 33 / 10 * 10) := (Nat.pow_mul ..).symm
    _ ≤ 2 ^ (33 * k) := Nat.pow_le_pow_right (by decide) (by omega)
    _ = (2 ^ 33) ^ k := Nat.pow_mul ..
    _ ≤ (10 ^ 10) ^ k := Nat.pow_le_pow_left (by decide) k
    _ = (10 ^ k) ^ 10 := Nat.pow_right_comm ..

theorem le_topPower {i : RoundingInterval} {power : Nat} (h : tenTo power ≤ i.high) :
    power ≤ i.topPower := by
  have hreach : 2 ^ (power * 33 / 10) ≤ i.high := (two_pow_le_ten_pow power).trans h
  have hhigh : i.high ≠ 0 := Nat.ne_of_gt (Nat.lt_of_lt_of_le (Nat.two_pow_pos _) hreach)
  have hlog : power * 33 / 10 ≤ i.high.log2 := (Nat.le_log2 hhigh).mpr hreach
  rw [topPower]
  omega

end RoundingInterval

namespace Binary64

theorem tenTo_dvd_value {x : Binary64} (hwhole : x.IsWhole) :
    tenTo x.roundingInterval.scale ∣ x.roundingInterval.value := by
  rw [roundingInterval_value, intervalPlace]
  split
  · rename_i hnonneg
    have hscale : x.roundingInterval.scale = 0 := by
      rw [roundingInterval_scale]
      omega
    rw [hscale]
    exact Nat.one_dvd _
  · have hbinary : 2 ^ (-(x.exponent - 2)).toNat ∣ 4 * x.significand := by
      rcases Int.lt_or_le x.exponent 0 with hneg | hnonneg
      · have hscale : (-(x.exponent - 2)).toNat = 2 + (-x.exponent).toNat := by omega
        rw [hscale, Nat.pow_add]
        exact Nat.mul_dvd_mul (Nat.dvd_refl _) (hwhole hneg)
      · have hscale : (-(x.exponent - 2)).toNat ≤ 2 := by omega
        exact Nat.dvd_mul_right_of_dvd (Nat.pow_dvd_pow 2 hscale) _
    rw [roundingInterval_scale, tenTo_eq]
    exact Nat.mul_dvd_mul hbinary (Nat.dvd_refl _)

/-- The shortest decimal of a whole number has no fraction either, and what it
denotes rounds to that number. -/
theorem shortest_of_isWhole {x : Binary64} (hsign : x.isNegative = false)
    (hzero : x.bits.toNat ≠ 0) (hwhole : x.IsWhole) :
    0 ≤ x.roundingInterval.shortest.exponent ∧
      RoundsTo x.bits.toNat (halfUnits (x.roundingInterval.shortest.digits *
        10 ^ x.roundingInterval.shortest.exponent.toNat)) := by
  let i := x.roundingInterval
  have hpos := significand_pos hsign hzero
  have hvalue : i.holds i.value = true := holds_value hpos
  have hdvd : tenTo i.scale ∣ i.value := tenTo_dvd_value hwhole
  have hreach : tenTo i.scale ≤ i.high := by
    have hleast : tenTo i.scale ≤ i.value :=
      Nat.le_of_dvd (Nat.mul_pos (Nat.mul_pos (by decide) hpos) x.intervalPlace_pos) hdvd
    exact hleast.trans (Nat.mul_le_mul_right _ (Nat.le_add_right _ _))
  have hpower : i.scale ≤ (i.search i.topPower).2 :=
    RoundingInterval.le_search hvalue hdvd i.topPower (RoundingInterval.le_topPower hreach)
  have hfound := i.search_holds hvalue i.topPower
  have hexponent : i.shortest.exponent = ((i.search i.topPower).2 - i.scale : Nat) := by
    show (((i.search i.topPower).2 : Nat) : Int) - i.scale = _
    omega
  refine ⟨by rw [show x.roundingInterval.shortest.exponent = _ from hexponent]; omega, ?_⟩
  apply roundsTo_of_holds hsign hzero
  have hproduct : i.shortest.digits * 10 ^ i.shortest.exponent.toNat * tenTo i.scale =
      (i.search i.topPower).1 * tenTo (i.search i.topPower).2 := by
    rw [hexponent, Int.toNat_natCast, Nat.mul_assoc]
    show _ * (10 ^ _ * 10 ^ i.scale) = _ * 10 ^ (i.search i.topPower).2
    rw [← Nat.pow_add, Nat.sub_add_cancel hpower]
    rfl
  exact hproduct ▸ hfound

end Binary64

/-! ## 4. The text of a whole number -/

theorem decimalValue_toDigits (n zeros : Nat) :
    decimalValue (Nat.toDigits 10 n ++ List.replicate zeros '0') = n * 10 ^ zeros := by
  show Nat.ofDigitChars 10 _ 0 = _
  rw [Nat.ofDigitChars_append, Nat.ofDigitChars_toDigits (by decide) (by decide),
    Nat.ofDigitChars_replicate_zero, Nat.mul_comm]

namespace Decimal

theorem render_plain {d : Decimal} (h : 0 ≤ d.exponent) :
    d.render .plain = Nat.toDigits 10 d.digits ++ List.replicate d.exponent.toNat '0' := by
  show d.positional false = _
  rw [positional, if_pos h]
  exact List.append_nil _

end Decimal

namespace Binary64

theorem isNaN_of_isFinite {x : Binary64} (h : x.IsFinite) : x.isNaN = false := by
  rw [isNaN, beq_false_of_ne h, Bool.false_and]

theorem isInfinite_of_isFinite {x : Binary64} (h : x.IsFinite) : x.isInfinite = false := by
  rw [isInfinite, beq_false_of_ne h, Bool.false_and]

theorem text_of_isFinite {x : Binary64} (hsign : x.isNegative = false) (hfinite : x.IsFinite) :
    x.text = String.ofList (x.shortest.render .plain) := by
  rw [text, render, isNaN_of_isFinite hfinite, isInfinite_of_isFinite hfinite, hsign]
  rfl

theorem eq_of_toNat_bits {x : Binary64} {n : Nat} (h : x.bits.toNat = n) :
    x = ⟨UInt64.ofNat n⟩ := by
  obtain ⟨bits⟩ := x
  rw [← h, UInt64.ofNat_toNat]

/-- The shortest decimal of a whole number denotes, without a point, a natural
number for which the double stands. -/
theorem nearest_shortest {x : Binary64} (hsign : x.isNegative = false) (hfinite : x.IsFinite)
    (hwhole : x.IsWhole) :
    0 ≤ x.shortest.exponent ∧
      nearest (x.shortest.digits * 10 ^ x.shortest.exponent.toNat) = x := by
  have hunsigned : x.unsignedBits = x.bits.toNat := Nat.mod_eq_of_lt (bits_lt hsign)
  rw [shortest]
  split
  · rename_i hzero
    have hbits : x.bits.toNat = 0 := hunsigned ▸ eq_of_beq hzero
    exact ⟨Int.le_refl 0, (eq_of_toNat_bits hbits).symm⟩
  · rename_i hzero
    have hbits : x.bits.toNat ≠ 0 := fun hbits => hzero (beq_iff_eq.mpr (hunsigned.trans hbits))
    obtain ⟨hexponent, hrounds⟩ := shortest_of_isWhole hsign hbits hwhole
    refine ⟨hexponent, ?_⟩
    rw [nearest, nearestBits_eq hrounds (bits_lt_of_isFinite hsign hfinite)]
    exact (eq_of_toNat_bits rfl).symm

/-- The text of a whole number is a run of digits that denotes it. -/
theorem text_of_isWhole {x : Binary64} (hsign : x.isNegative = false) (hfinite : x.IsFinite)
    (hwhole : x.IsWhole) :
    x.text.toList ≠ [] ∧ (∀ c ∈ x.text.toList, c.isDigit = true) ∧ ofDigits x.text.toList = x := by
  obtain ⟨hexponent, hnearest⟩ := nearest_shortest hsign hfinite hwhole
  rw [text_of_isFinite hsign hfinite, Decimal.render_plain hexponent, String.toList_ofList]
  refine ⟨List.append_ne_nil_of_left_ne_nil Nat.toDigits_ne_nil _, ?_, ?_⟩
  · intro c hc
    rcases List.mem_append.mp hc with hdigit | hzero
    · exact Nat.isDigit_of_mem_toDigits (by decide) (by decide) hdigit
    · rw [(List.mem_replicate.mp hzero).2]
      rfl
  · rw [ofDigits, decimalValue_toDigits, hnearest]

/-! ## 5. What natural numbers round to -/

theorem nearestBits_le (n : Nat) : nearestBits n ≤ infinityBits := by
  rw [nearestBits]
  split
  · exact Nat.zero_le _
  · exact Nat.min_le_left _ _

theorem bits_nearest (n : Nat) : (nearest n).bits.toNat = nearestBits n := by
  have hlt : nearestBits n < 2 ^ 64 := Nat.lt_of_le_of_lt (nearestBits_le n) (by decide)
  exact UInt64.toNat_ofNat_of_lt' hlt

theorem nearest_isNegative (n : Nat) : (nearest n).isNegative = false := by
  have hlt : nearestBits n < signBit := Nat.lt_of_le_of_lt (nearestBits_le n) (by decide)
  rw [isNegative, bits_nearest]
  exact decide_eq_false (Nat.not_le.mpr hlt)

theorem nearest_isFinite_or (n : Nat) :
    (nearest n).IsFinite ∨ (nearest n).bits.toNat = infinityBits := by
  rcases Nat.eq_or_lt_of_le (nearestBits_le n) with heq | hlt
  · exact .inr ((bits_nearest n).trans heq)
  · refine .inl (Nat.ne_of_lt ?_)
    rw [exponentField_eq (nearest_isNegative n), bits_nearest]
    exact (Nat.div_lt_iff_lt_mul hiddenBit_pos).mpr hlt

theorem isWhole_of_magnitude {x : Binary64} (hsign : x.isNegative = false) {n : Nat}
    (h : magnitude x.bits.toNat = n * unitsOfOne) : x.IsWhole := by
  intro hneg
  have hexponent := x.exponent_sub_two
  have hplaces : (-x.exponent).toNat = 1074 - (x.exponentField - 1) := by omega
  have hunits : 2 ^ (1074 - (x.exponentField - 1)) * 2 ^ (x.exponentField - 1) = unitsOfOne := by
    have hplace : x.exponentField - 1 ≤ 1074 := by omega
    unfold unitsOfOne
    generalize 1074 = places at *
    exact Nat.pow_sub_mul_pow 2 hplace
  rw [magnitude_bits hsign, ← hunits, ← Nat.mul_assoc] at h
  rw [hplaces, Nat.eq_of_mul_eq_mul_right (Nat.two_pow_pos _) h]
  exact Nat.dvd_mul_left _ _

/-- A natural number rounds to a whole number, if not to infinity. -/
theorem nearest_isWhole {n : Nat} (hfinite : (nearest n).IsFinite) : (nearest n).IsWhole := by
  have hsign := nearest_isNegative n
  have hlt := bits_lt_of_isFinite hsign hfinite
  rw [bits_nearest] at hlt
  rcases Nat.eq_zero_or_pos n with rfl | hn
  · apply isWhole_of_magnitude hsign (n := 0)
    rw [nearest_zero, Nat.zero_mul]
    decide
  · have hn : n ≠ 0 := Nat.ne_of_gt hn
    have hbits : nearestBits n = (1022 + n.log2) * hiddenBit + nearestSignificand n n.log2 := by
      rw [nearestBits, if_neg hn] at hlt ⊢
      omega
    rcases Nat.lt_or_ge 52 n.log2 with hround | hexact
    -- The last place is already worth more than one.
    · intro hneg
      have hlow := (nearestSignificand_bounds hn).1
      have hfield : 1022 + n.log2 + 1 ≤ (nearest n).exponentField := by
        rw [exponentField_eq hsign, bits_nearest, hbits, Nat.le_div_iff_mul_le hiddenBit_pos,
          Nat.succ_mul]
        exact Nat.add_le_add_left hlow _
      have hexponent := (nearest n).exponent_sub_two
      omega
    · apply isWhole_of_magnitude hsign (n := n)
      rw [bits_nearest, hbits, magnitude_exact hn hexact]

end Binary64

end Scriptlet
