import Mathlib.Order.Monotone.Basic
import Scriptlet.Proofs.Binary64.WholeNumber

/-!
# Reading gives the nearest double

The double that is read for a natural number stands for it, and no other one does.

Results:
1. `RoundsTo.natAbs_le`, `RoundsTo.even_of_tie`: the pattern between whose boundaries
   a number lies has the nearest magnitude, and on a tie it is even.
2. `isInfinite_nearest_iff`: which numbers round to infinity.
3. `isNearest_nearest`, `eq_nearest_of_isNearest`: the double is the nearest one, and
   no other one without a sign is.
4. `units_nearest_of_le`: up to `2 ^ 53` it is the number itself.
5. `standsFor_iff`: `nearest` gives the double that stands for a number, all of the above
   together.
-/

namespace Scriptlet

namespace Binary64

/-! ## 1. The nearest pattern -/

theorem boundary_between {pattern other : Nat} (h : other ≠ pattern) :
    magnitude other < magnitude pattern ∧
        magnitude other + magnitude pattern ≤ boundary pattern ∨
      magnitude pattern < magnitude other ∧
        boundary (pattern + 1) ≤ magnitude pattern + magnitude other := by
  rcases Nat.lt_or_gt_of_ne h with hlt | hgt
  · refine .inl ⟨magnitude_strictMono hlt, Nat.add_le_add_right ?_ _⟩
    exact magnitude_strictMono.monotone (Nat.le_sub_one_of_lt hlt)
  · refine .inr ⟨magnitude_strictMono hgt, ?_⟩
    rw [boundary, Nat.add_sub_cancel]
    exact Nat.add_le_add_left (magnitude_strictMono.monotone hgt) _

namespace RoundsTo

variable {pattern n : Nat}

/-- No magnitude lies nearer to a number than that of the pattern to which it rounds. -/
theorem natAbs_le (h : RoundsTo pattern (2 * n)) (other : Nat) :
    ((magnitude pattern : Int) - n).natAbs ≤ ((magnitude other : Int) - n).natAbs := by
  rcases eq_or_ne other pattern with rfl | hne
  · exact Nat.le_refl _
  · have habove := h.above
    have hbelow := h.below
    rcases boundary_between hne with ⟨hlt, hboundary⟩ | ⟨hlt, hboundary⟩ <;> omega

/-- If another magnitude lies as near, the number is on a boundary. -/
theorem even_of_tie (h : RoundsTo pattern (2 * n)) {other : Nat} (hne : other ≠ pattern)
    (htie : ((magnitude other : Int) - n).natAbs = ((magnitude pattern : Int) - n).natAbs) :
    pattern % 2 = 0 := by
  refine Classical.byContradiction fun hodd => ?_
  obtain ⟨habove, hbelow⟩ := h.inside (Nat.mod_two_ne_zero.mp hodd)
  rcases boundary_between hne with ⟨hlt, hboundary⟩ | ⟨hlt, hboundary⟩ <;> omega

theorem adjacent_of_tie (h : RoundsTo pattern (2 * n)) {other : Nat} (hne : other ≠ pattern)
    (htie : ((magnitude other : Int) - n).natAbs = ((magnitude pattern : Int) - n).natAbs) :
    other + 1 = pattern ∨ other = pattern + 1 := by
  have habove := h.above
  have hbelow := h.below
  rcases boundary_between hne with ⟨hlt, hboundary⟩ | ⟨hlt, hboundary⟩
  · refine .inl ?_
    have hback : magnitude other = magnitude (pattern - 1) := by
      rw [boundary] at habove hboundary
      omega
    have hsmaller : other < pattern := magnitude_strictMono.lt_iff_lt.mp hlt
    have hequal : other = pattern - 1 := magnitude_strictMono.injective hback
    omega
  · refine .inr (magnitude_strictMono.injective ?_)
    rw [boundary, Nat.add_sub_cancel] at hbelow hboundary
    omega

/-- A number rounds to an even pattern or one behind it from the boundary before it on. -/
theorem le_iff {q edge : Nat} (h : RoundsTo pattern q) (heven : edge % 2 = 0) :
    edge ≤ pattern ↔ boundary edge ≤ q := by
  refine ⟨fun hle => (boundary_strictMono.monotone hle).trans h.above, fun hle => ?_⟩
  refine Nat.le_of_not_lt fun hlt => ?_
  -- Otherwise the number is on the boundary, and there the odd pattern before `edge` ends.
  have hnext : boundary (pattern + 1) ≤ boundary edge := boundary_strictMono.monotone hlt
  have hmeet : pattern + 1 = edge :=
    boundary_strictMono.injective (Nat.le_antisymm hnext (hle.trans h.below))
  have hbelow := (h.inside (by omega)).2
  omega

end RoundsTo

/-- A natural number rounds to a pattern, and its double is that pattern or infinity. -/
theorem exists_roundsTo (n : Nat) :
    ∃ pattern, RoundsTo pattern (halfUnits n) ∧ nearestBits n = min infinityBits pattern := by
  rcases eq_or_ne n 0 with rfl | hn
  · exact ⟨0, roundsTo_zero, by decide⟩
  · exact ⟨_, roundsTo_nearest hn, by rw [nearestBits, if_neg hn]⟩

/-! ## 2. Infinity -/

theorem boundary_infinityBits : boundary infinityBits = halfUnits overflowThreshold := by
  decide +kernel

theorem halfUnits_le_iff {m n : Nat} : halfUnits m ≤ halfUnits n ↔ m ≤ n := by
  rw [halfUnits, halfUnits, Nat.mul_le_mul_right_iff unitsOfOne_pos,
    Nat.mul_le_mul_left_iff (by decide)]

/-- From the threshold on, numbers round to infinity. -/
theorem infinityBits_le_iff {pattern n : Nat} (h : RoundsTo pattern (halfUnits n)) :
    infinityBits ≤ pattern ↔ overflowThreshold ≤ n := by
  rw [h.le_iff (by decide), boundary_infinityBits, halfUnits_le_iff]

theorem isInfinite_iff {x : Binary64} (hsign : x.isNegative = false) :
    x.isInfinite = true ↔ x.bits.toNat = infinityBits := by
  rw [isInfinite, Bool.and_eq_true, beq_iff_eq, beq_iff_eq, exponentField_eq hsign, fraction,
    infinityBits]
  have hdivision := Nat.div_add_mod' x.bits.toNat hiddenBit
  constructor
  · rintro ⟨hfield, hfraction⟩
    rw [← hdivision, hfield, hfraction, Nat.add_zero]
  · intro hbits
    rw [hbits, Nat.mul_div_cancel _ hiddenBit_pos, Nat.mul_mod_left]
    exact ⟨rfl, rfl⟩

theorem isInfinite_nearest_iff (n : Nat) :
    (nearest n).isInfinite = true ↔ overflowThreshold ≤ n := by
  obtain ⟨pattern, hrounds, hbits⟩ := exists_roundsTo n
  rw [isInfinite_iff (nearest_isNegative n), bits_nearest, hbits, ← infinityBits_le_iff hrounds]
  omega

/-! ## 3. The nearest double -/

theorem units_of_positive {x : Binary64} (hsign : x.isNegative = false) :
    x.units = magnitude x.bits.toNat := by
  have hexponent := x.exponent_sub_two
  have hplaces : (x.exponent + 1074).toNat = x.exponentField - 1 := by omega
  rw [units, hsign, hplaces, magnitude_bits hsign]
  rfl

theorem units_le_zero {x : Binary64} (hsign : x.isNegative = true) : x.units ≤ 0 := by
  rw [units, if_pos hsign]
  exact Int.neg_nonpos_of_nonneg (Int.natCast_nonneg _)

theorem distance_of_positive {x : Binary64} (hsign : x.isNegative = false) (n : Nat) :
    x.distance n = ((magnitude x.bits.toNat : Int) - (n * unitsOfOne : Nat)).natAbs := by
  rw [distance, units_of_positive hsign]

theorem distance_of_negative {x : Binary64} (hsign : x.isNegative = true) (n : Nat) :
    x.distance n = x.units.natAbs + n * unitsOfOne := by
  have hle := units_le_zero hsign
  rw [distance]
  generalize n * unitsOfOne = whole
  omega

theorem natAbs_magnitude_zero (n : Nat) : ((magnitude 0 : Int) - n).natAbs = n := by
  rw [show magnitude 0 = 0 from rfl]
  omega

section Nearest

variable {x : Binary64} {n : Nat}

/-- Zero lies no nearer than the double whose pattern a number rounds to. -/
theorem distance_le_of_roundsTo (hsign : x.isNegative = false)
    (h : RoundsTo x.bits.toNat (2 * (n * unitsOfOne))) : x.distance n ≤ n * unitsOfOne := by
  rw [distance_of_positive hsign]
  exact (h.natAbs_le 0).trans (Nat.le_of_eq (natAbs_magnitude_zero _))

/-- No double lies nearer than the one whose pattern a number rounds to. -/
theorem distance_le_distance (hsign : x.isNegative = false)
    (h : RoundsTo x.bits.toNat (2 * (n * unitsOfOne))) (y : Binary64) :
    x.distance n ≤ y.distance n := by
  cases hy : y.isNegative with
  | true =>
    rw [distance_of_negative hy]
    exact (distance_le_of_roundsTo hsign h).trans (Nat.le_add_left _ _)
  | false =>
    rw [distance_of_positive hsign, distance_of_positive hy]
    exact h.natAbs_le _

theorem units_eq_zero_of_tie (hsign : x.isNegative = false)
    (h : RoundsTo x.bits.toNat (2 * (n * unitsOfOne))) {y : Binary64}
    (hy : y.isNegative = true) (htie : y.distance n = x.distance n) : y.units = 0 := by
  have hle := distance_le_of_roundsTo hsign h
  rw [← htie, distance_of_negative hy] at hle
  generalize n * unitsOfOne = whole at hle
  omega

/-- If another value lies as near, the double whose pattern a number rounds to is even. -/
theorem significand_even_of_tie (hsign : x.isNegative = false)
    (h : RoundsTo x.bits.toNat (2 * (n * unitsOfOne))) {y : Binary64} (hne : y.units ≠ x.units)
    (htie : y.distance n = x.distance n) : x.significand % 2 = 0 := by
  rw [significand_parity hsign]
  rw [units_of_positive hsign] at hne
  cases hy : y.isNegative with
  -- The other value is the zero with a sign, which lies where the other zero does.
  | true =>
    have hunits := units_eq_zero_of_tie hsign h hy htie
    rw [hunits] at hne
    rw [distance_of_negative hy, hunits, Int.natAbs_zero, Nat.zero_add,
      distance_of_positive hsign] at htie
    have hother : 0 ≠ x.bits.toNat := fun heq => hne (by rw [← heq]; rfl)
    exact h.even_of_tie hother ((natAbs_magnitude_zero _).trans htie)
  | false =>
    rw [distance_of_positive hsign, distance_of_positive hy] at htie
    rw [units_of_positive hy] at hne
    exact h.even_of_tie (fun heq => hne (by rw [heq])) htie

end Nearest

/-- Below the threshold, the pattern that a number rounds to is that of a finite double. -/
theorem roundsTo_bits_nearest {n : Nat} (h : n < overflowThreshold) :
    (nearest n).IsFinite ∧ RoundsTo (nearest n).bits.toNat (2 * (n * unitsOfOne)) := by
  obtain ⟨pattern, hrounds, hbits⟩ := exists_roundsTo n
  have hlt : pattern < infinityBits :=
    Nat.lt_of_not_le fun hle => Nat.not_le.mpr h ((infinityBits_le_iff hrounds).mp hle)
  have hpattern : (nearest n).bits.toNat = pattern := by
    rw [bits_nearest, hbits, Nat.min_eq_right (Nat.le_of_lt hlt)]
  refine ⟨(nearest_isFinite_or n).resolve_right fun hinfinity => ?_, ?_⟩
  · exact Nat.ne_of_lt hlt (hpattern.symm.trans hinfinity)
  · rwa [hpattern, ← Nat.mul_assoc]

/-- Below the threshold, the double for which a number stands is the nearest one. -/
theorem isNearest_nearest {n : Nat} (h : n < overflowThreshold) : (nearest n).IsNearest n := by
  obtain ⟨hfinite, hrounds⟩ := roundsTo_bits_nearest h
  have hsign := nearest_isNegative n
  exact ⟨hfinite, fun y _ => distance_le_distance hsign hrounds y,
    fun _ _ => significand_even_of_tie hsign hrounds⟩

/-- No other double without a sign is the nearest one. -/
theorem eq_nearest_of_isNearest {x : Binary64} {n : Nat} (h : x.IsNearest n)
    (hsign : x.isNegative = false) (hlt : n < overflowThreshold) : x = nearest n := by
  obtain ⟨hfinite, hrounds⟩ := roundsTo_bits_nearest hlt
  have hpositive := nearest_isNegative n
  have hsame : x.distance n = (nearest n).distance n :=
    Nat.le_antisymm (h.nearest _ hfinite) ((isNearest_nearest hlt).nearest x h.finite)
  have htie := hsame
  rw [distance_of_positive hsign, distance_of_positive hpositive] at htie
  rcases eq_or_ne x.bits.toNat (nearest n).bits.toNat with heq | hne
  · rw [eq_of_toNat_bits heq]
    exact (eq_of_toNat_bits rfl).symm
  -- Neighbours cannot both be even.
  · have hunits : (nearest n).units ≠ x.units := by
      rw [units_of_positive hsign, units_of_positive hpositive]
      exact fun heq => hne (magnitude_strictMono.injective (Int.ofNat_inj.mp heq).symm)
    have heven := h.even _ hfinite hunits hsame.symm
    rw [significand_parity hsign] at heven
    have hother := hrounds.even_of_tie hne htie
    rcases hrounds.adjacent_of_tie hne htie with hnext | hnext <;> omega

/-! ## 4. Numbers that are doubles -/

theorem exists_magnitude_eq {n : Nat} (h : n ≤ 2 ^ 53) :
    ∃ pattern, magnitude pattern = n * unitsOfOne := by
  rcases eq_or_ne n 0 with rfl | hn
  · exact ⟨0, (Nat.zero_mul _).symm⟩
  rcases Nat.lt_or_ge 52 n.log2 with hlarge | hexact
  · have hpower : 2 ^ 53 ≤ n := (Nat.le_log2 hn).mp hlarge
    obtain rfl : n = 2 ^ 53 := Nat.le_antisymm h hpower
    have htwice : 2 * hiddenBit = 2 ^ 53 := by decide
    refine ⟨1074 * hiddenBit + 2 * hiddenBit, ?_⟩
    rw [magnitude_scaled (by decide) (Nat.le_refl _), htwice, unitsOfOne]
  · exact ⟨_, magnitude_exact hn hexact⟩

/-- Up to `2 ^ 53`, every number is a double. -/
theorem units_nearest_of_le {n : Nat} (h : n ≤ 2 ^ 53) :
    (nearest n).units = (n * unitsOfOne : Nat) := by
  have hlt : n < overflowThreshold := Nat.lt_of_le_of_lt h (by decide +kernel)
  obtain ⟨pattern, hpattern⟩ := exists_magnitude_eq h
  have hnearest := (roundsTo_bits_nearest hlt).2.natAbs_le pattern
  rw [hpattern] at hnearest
  rw [units_of_positive (nearest_isNegative n)]
  generalize n * unitsOfOne = whole at *
  omega

/-! ## 5. The double that stands for a number -/

/-- One double stands for each natural number. -/
theorem standsFor_iff {x : Binary64} {n : Nat} : x.StandsFor n ↔ x = nearest n := by
  constructor
  · intro h
    rcases Nat.lt_or_ge n overflowThreshold with hlt | hge
    · exact eq_nearest_of_isNearest (h.nearest hlt) h.unsigned hlt
    · have hx := (isInfinite_iff h.unsigned).mp (h.infinite_iff.mpr hge)
      have hn := (isInfinite_iff (nearest_isNegative n)).mp ((isInfinite_nearest_iff n).mpr hge)
      exact (eq_of_toNat_bits hx).trans (eq_of_toNat_bits hn).symm
  · rintro rfl
    exact ⟨nearest_isNegative n, isNearest_nearest, isInfinite_nearest_iff n, units_nearest_of_le⟩

end Binary64

end Scriptlet
