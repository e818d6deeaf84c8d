import Mathlib.Order.Monotone.Basic
import Scriptlet.Binary64.Nearest
import Scriptlet.Binary64.Value

/-!
# The numbers that round to one double

The nonnegative doubles lie on a line in the order of their patterns, and each
is one unit in its last place below the next. Half-way between two neighbours
lies a boundary. A number rounds to the double between whose boundaries it lies;
on a boundary it rounds to the neighbour with the even significand, and that is
the one with the even pattern.

All numbers here are natural: a magnitude counts units of `2 ^ (-1074)`, the
smallest double, and a boundary half of such units.

Results:
1. `magnitude_succ`: from one pattern to the next, the magnitude grows by one
   unit in the last place.
2. `RoundsTo.unique`: a number rounds to one pattern only.
3. `roundsTo_nearest`, `nearestBits_eq`: `nearestBits` finds that pattern.
-/

namespace Scriptlet

namespace Binary64

/-! ## Definitions -/

/-- One unit in the last place of a pattern. -/
def lastPlace (pattern : Nat) : Nat := 2 ^ (pattern / hiddenBit - 1)

/-- The value of a pattern, its sign bit being clear. It is not bounded by the
top field: behind the largest double the line goes on in the same way. -/
def magnitude (pattern : Nat) : Nat :=
  (if pattern < hiddenBit then pattern else hiddenBit + pattern % hiddenBit) * lastPlace pattern

/-- Half-way between a pattern and the one before it. -/
def boundary (pattern : Nat) : Nat := magnitude (pattern - 1) + magnitude pattern

/-- The number `q`, in half units, rounds to a pattern: it lies between the
boundaries, and on one of them only when the pattern is even. -/
structure RoundsTo (pattern q : Nat) : Prop where
  above : boundary pattern ≤ q
  below : q ≤ boundary (pattern + 1)
  inside : pattern % 2 = 1 → boundary pattern < q ∧ q < boundary (pattern + 1)

/-- A natural number in half units. -/
def halfUnits (n : Nat) : Nat := 2 * n * unitsOfOne

/-! ## 1. The line of the doubles -/

theorem lastPlace_pos (pattern : Nat) : 0 < lastPlace pattern := Nat.two_pow_pos _

theorem hiddenBit_pos : 0 < hiddenBit := by decide

theorem magnitude_of_lt {pattern : Nat} (h : pattern < hiddenBit) :
    magnitude pattern = pattern := by
  rw [magnitude, lastPlace, if_pos h, Nat.div_eq_of_lt h, Nat.pow_zero, Nat.mul_one]

/-- The magnitude of an exponent and a significand. A significand of twice the
hidden bit has carried into the next exponent. -/
theorem magnitude_scaled {c significand : Nat} (hlow : hiddenBit ≤ significand)
    (hhigh : significand ≤ 2 * hiddenBit) :
    magnitude (c * hiddenBit + significand) = significand * 2 ^ c := by
  have hnormal : ¬ c * hiddenBit + significand < hiddenBit :=
    Nat.not_lt.mpr (hlow.trans (Nat.le_add_left _ _))
  obtain ⟨fraction, rfl⟩ := Nat.exists_eq_add_of_le hlow
  have hsplit : c * hiddenBit + (hiddenBit + fraction) = fraction + hiddenBit * (c + 1) := by
    rw [Nat.mul_succ, Nat.mul_comm hiddenBit c]
    omega
  rw [magnitude, if_neg hnormal, lastPlace, hsplit, Nat.add_mul_mod_self_left,
    Nat.add_mul_div_left _ _ hiddenBit_pos]
  rcases Nat.lt_or_ge fraction hiddenBit with hlt | hge
  · rw [Nat.mod_eq_of_lt hlt, Nat.div_eq_of_lt hlt, Nat.zero_add, Nat.add_sub_cancel]
  · obtain rfl : fraction = hiddenBit := by omega
    rw [Nat.mod_self, Nat.div_self hiddenBit_pos, Nat.add_zero, Nat.add_comm 1 (c + 1),
      Nat.add_sub_cancel, Nat.pow_succ, ← Nat.two_mul, Nat.mul_comm 2 hiddenBit, Nat.mul_assoc,
      Nat.mul_comm (2 ^ c) 2]

theorem exists_scaled {pattern : Nat} (h : hiddenBit ≤ pattern) :
    ∃ c significand, hiddenBit ≤ significand ∧ significand < 2 * hiddenBit ∧
      pattern = c * hiddenBit + significand ∧ lastPlace pattern = 2 ^ c := by
  have hfraction : pattern % hiddenBit < hiddenBit := Nat.mod_lt _ hiddenBit_pos
  have hexponent : 0 < pattern / hiddenBit := Nat.div_pos h hiddenBit_pos
  refine ⟨pattern / hiddenBit - 1, hiddenBit + pattern % hiddenBit, Nat.le_add_right _ _,
    by omega, ?_, rfl⟩
  have hone : (pattern / hiddenBit - 1 + 1) * hiddenBit = pattern / hiddenBit * hiddenBit := by
    rw [Nat.sub_add_cancel hexponent]
  have hdivision := Nat.div_add_mod' pattern hiddenBit
  rw [Nat.succ_mul] at hone
  omega

/-- From one pattern to the next, the magnitude grows by one unit in the last place. -/
theorem magnitude_succ (pattern : Nat) :
    magnitude (pattern + 1) = magnitude pattern + lastPlace pattern := by
  rcases Nat.lt_or_ge pattern hiddenBit with hsub | hnormal
  · rw [magnitude_of_lt hsub, lastPlace, Nat.div_eq_of_lt hsub]
    rcases Nat.lt_or_ge (pattern + 1) hiddenBit with hlt | hge
    · exact magnitude_of_lt hlt
    · obtain hcarry : pattern + 1 = 0 * hiddenBit + hiddenBit := by omega
      rw [hcarry, magnitude_scaled (Nat.le_refl _) (by omega), Nat.pow_zero]
      omega
  · obtain ⟨c, significand, hlow, hhigh, hpattern, hplace⟩ := exists_scaled hnormal
    have hnext : pattern + 1 = c * hiddenBit + (significand + 1) := by omega
    rw [hplace, hnext, magnitude_scaled (by omega) (by omega), hpattern,
      magnitude_scaled hlow (Nat.le_of_lt hhigh), Nat.succ_mul]

theorem magnitude_strictMono : StrictMono magnitude :=
  strictMono_nat_of_lt_succ fun pattern => by
    rw [magnitude_succ]
    exact Nat.lt_add_of_pos_right (lastPlace_pos pattern)

theorem boundary_strictMono : StrictMono boundary :=
  strictMono_nat_of_lt_succ fun pattern => by
    have hback : magnitude (pattern - 1) ≤ magnitude pattern :=
      magnitude_strictMono.monotone (Nat.sub_le _ _)
    have hnext : magnitude pattern < magnitude (pattern + 1) :=
      magnitude_strictMono (Nat.lt_succ_self _)
    exact Nat.add_lt_add_of_le_of_lt hback hnext

/-! ## 2. A number rounds to one pattern -/

namespace RoundsTo

theorem le_of_roundsTo {first second q : Nat} (hfirst : RoundsTo first q)
    (hsecond : RoundsTo second q) : second ≤ first := by
  refine Nat.le_of_not_lt fun hlt => ?_
  have hmeet : boundary (first + 1) = boundary second :=
    Nat.le_antisymm (boundary_strictMono.monotone hlt) (hsecond.above.trans hfirst.below)
  obtain rfl : first + 1 = second := boundary_strictMono.injective hmeet
  have hq : q = boundary (first + 1) := Nat.le_antisymm hfirst.below hsecond.above
  -- Of two neighbours, one is odd and has no boundary to itself.
  rcases Nat.mod_two_eq_zero_or_one first with heven | hodd
  · have hnext : (first + 1) % 2 = 1 := by rw [Nat.add_mod, heven]
    exact absurd hq (Nat.ne_of_gt (hsecond.inside hnext).1)
  · exact absurd hq (Nat.ne_of_lt (hfirst.inside hodd).2)

/-- A number rounds to one pattern only. -/
theorem unique {first second q : Nat} (hfirst : RoundsTo first q) (hsecond : RoundsTo second q) :
    first = second :=
  Nat.le_antisymm (le_of_roundsTo hsecond hfirst) (le_of_roundsTo hfirst hsecond)

end RoundsTo

/-! ## 3. The nearest pattern -/

theorem hiddenBit_eq : hiddenBit = 2 ^ 52 := by decide

theorem unitsOfOne_pos : 0 < unitsOfOne := by
  unfold unitsOfOne
  generalize 1074 = places
  exact Nat.two_pow_pos places

/-- The rounded quotient is at most half a unit away, and less than that when it is odd. -/
theorem roundedShift_spec (n k : Nat) :
    2 * roundedShift n k * 2 ^ k ≤ 2 * n + 2 ^ k ∧ 2 * n ≤ (2 * roundedShift n k + 1) * 2 ^ k ∧
      (roundedShift n k % 2 = 1 →
        2 * roundedShift n k * 2 ^ k < 2 * n + 2 ^ k ∧
          2 * n < (2 * roundedShift n k + 1) * 2 ^ k) := by
  have hunit : 1 <<< k = 2 ^ k := Nat.one_shiftLeft k
  have hpos : 0 < 2 ^ k := Nat.two_pow_pos k
  have hdivision := Nat.div_add_mod' n (2 ^ k)
  have hremainder : n % 2 ^ k < 2 ^ k := Nat.mod_lt _ hpos
  rw [roundedShift, hunit]
  generalize n / 2 ^ k = quotient at *
  generalize n % 2 ^ k = remainder at *
  generalize 2 ^ k = unit at *
  split
  · rename_i hup
    simp only [Nat.mul_add, Nat.add_mul, Nat.mul_assoc, Nat.one_mul, Nat.mul_one]
    generalize quotient * unit = whole at *
    refine ⟨by omega, by omega, fun hodd => ⟨by omega, by omega⟩⟩
  · rename_i hdown
    simp only [Nat.add_mul, Nat.mul_assoc, Nat.one_mul]
    generalize quotient * unit = whole at *
    refine ⟨by omega, by omega, fun hodd => ⟨by omega, by omega⟩⟩

theorem boundary_succ (pattern : Nat) :
    boundary (pattern + 1) = 2 * magnitude pattern + lastPlace pattern := by
  rw [boundary, Nat.add_sub_cancel, magnitude_succ, Nat.two_mul, Nat.add_assoc]

/-- When a number rounds to an exponent and a significand: it is at most half a
unit away. Below the smallest significand the units are smaller, and a number
there has another exponent. -/
theorem roundsTo_scaled {c significand q : Nat} (hlow : hiddenBit ≤ significand)
    (hhigh : significand ≤ 2 * hiddenBit) (habove : 2 * significand * 2 ^ c ≤ q + 2 ^ c)
    (hbelow : q ≤ (2 * significand + 1) * 2 ^ c)
    (hodd : significand % 2 = 1 →
      2 * significand * 2 ^ c < q + 2 ^ c ∧ q < (2 * significand + 1) * 2 ^ c)
    (hleast : significand = hiddenBit → 2 * significand * 2 ^ c ≤ q) :
    RoundsTo (c * hiddenBit + significand) q := by
  have hplace : 2 ^ c ≤ lastPlace (c * hiddenBit + significand) := by
    have hexponent : c + 1 ≤ (c * hiddenBit + significand) / hiddenBit := by
      rw [Nat.le_div_iff_mul_le hiddenBit_pos, Nat.succ_mul]
      exact Nat.add_le_add_left hlow _
    exact Nat.pow_le_pow_right (by decide) (Nat.le_sub_of_add_le hexponent)
  have hmagnitude : magnitude (c * hiddenBit + significand) = significand * 2 ^ c :=
    magnitude_scaled hlow hhigh
  have hnext : (2 * significand + 1) * 2 ^ c ≤ boundary (c * hiddenBit + significand + 1) := by
    rw [boundary_succ, hmagnitude, Nat.succ_mul, Nat.mul_assoc]
    exact Nat.add_le_add_left hplace _
  have hparity : (c * hiddenBit + significand) % 2 = significand % 2 := by
    rw [hiddenBit_eq]
    omega
  rcases Nat.eq_or_lt_of_le hlow with heq | hlt
  · have hback : boundary (c * hiddenBit + significand) < 2 * significand * 2 ^ c := by
      have hstep : magnitude (c * hiddenBit + significand - 1) <
          magnitude (c * hiddenBit + significand) :=
        magnitude_strictMono (Nat.sub_lt (Nat.add_pos_right _ (heq ▸ hiddenBit_pos)) Nat.one_pos)
      rw [boundary, Nat.mul_assoc, Nat.two_mul, ← hmagnitude]
      exact Nat.add_lt_add_right hstep _
    have hq := hleast heq.symm
    exact ⟨Nat.le_of_lt (Nat.lt_of_lt_of_le hback hq), hbelow.trans hnext,
      fun hpattern => ⟨Nat.lt_of_lt_of_le hback hq,
        Nat.lt_of_lt_of_le (hodd (hparity ▸ hpattern)).2 hnext⟩⟩
  · have hback : boundary (c * hiddenBit + significand) + 2 ^ c = 2 * significand * 2 ^ c := by
      obtain ⟨less, rfl⟩ := Nat.exists_eq_add_of_lt hlt
      rw [boundary, hmagnitude, ← Nat.add_assoc, Nat.add_sub_cancel, magnitude_scaled (by omega)
        (by omega), Nat.mul_assoc, Nat.two_mul, Nat.add_right_comm, ← Nat.succ_mul]
    refine ⟨?_, hbelow.trans hnext, fun hpattern => ⟨?_, ?_⟩⟩
    · exact Nat.le_of_add_le_add_right (hback ▸ habove)
    · exact Nat.lt_of_add_lt_add_right (hback ▸ (hodd (hparity ▸ hpattern)).1)
    · exact Nat.lt_of_lt_of_le (hodd (hparity ▸ hpattern)).2 hnext

theorem nearestSignificand_bounds {n : Nat} (hn : n ≠ 0) :
    hiddenBit ≤ nearestSignificand n n.log2 ∧ nearestSignificand n n.log2 ≤ 2 * hiddenBit := by
  have hlow : 2 ^ n.log2 ≤ n := Nat.log2_self_le hn
  have hhigh : n < 2 ^ (n.log2 + 1) := Nat.lt_log2_self
  rw [nearestSignificand]
  split
  · rename_i htop
    have hunit : 2 ^ n.log2 * 2 ^ (52 - n.log2) = hiddenBit := by
      rw [← Nat.pow_add, hiddenBit_eq, Nat.add_sub_cancel' htop]
    rw [Nat.shiftLeft_eq]
    rw [Nat.pow_succ, Nat.mul_comm] at hhigh
    constructor
    · rw [← hunit]
      exact Nat.mul_le_mul_right _ hlow
    · rw [← hunit, ← Nat.mul_assoc]
      exact Nat.mul_le_mul_right _ (Nat.le_of_lt hhigh)
  · rename_i htop
    have hunit : 2 ^ n.log2 = hiddenBit * 2 ^ (n.log2 - 52) := by
      rw [hiddenBit_eq, ← Nat.pow_add]
      congr 1
      omega
    obtain ⟨habove, hbelow, -⟩ := roundedShift_spec n (n.log2 - 52)
    have hpos : 0 < 2 ^ (n.log2 - 52) := Nat.two_pow_pos _
    rw [Nat.pow_succ'] at hhigh
    rw [hunit] at hlow hhigh
    generalize 2 ^ (n.log2 - 52) = unit at *
    generalize roundedShift n (n.log2 - 52) = significand at *
    rw [Nat.mul_assoc] at habove
    rw [Nat.succ_mul (2 * significand), Nat.mul_assoc] at hbelow
    constructor
    · have hlt : hiddenBit * unit < (significand + 1) * unit := by
        rw [Nat.succ_mul]
        omega
      exact Nat.le_of_lt_succ (Nat.lt_of_mul_lt_mul_right hlt)
    · have hlt : significand * unit < (2 * hiddenBit + 1) * unit := by
        rw [Nat.succ_mul, Nat.mul_assoc]
        omega
      exact Nat.le_of_lt_succ (Nat.lt_of_mul_lt_mul_right hlt)

theorem two_pow_mul_two_pow {top : Nat} (h : top ≤ 52) :
    2 ^ (52 - top) * 2 ^ (1022 + top) = unitsOfOne := by
  rw [unitsOfOne, ← Nat.pow_add 2 (52 - top) (1022 + top)]
  congr 1
  omega

theorem magnitude_exact {n : Nat} (hn : n ≠ 0) (hexact : n.log2 ≤ 52) :
    magnitude ((1022 + n.log2) * hiddenBit + nearestSignificand n n.log2) = n * unitsOfOne := by
  obtain ⟨hlow, hhigh⟩ := nearestSignificand_bounds hn
  rw [magnitude_scaled hlow hhigh, nearestSignificand, if_pos hexact, Nat.shiftLeft_eq,
    Nat.mul_assoc, two_pow_mul_two_pow hexact]

/-- A positive number rounds to the pattern that `nearestBits` puts together. -/
theorem roundsTo_nearest {n : Nat} (hn : n ≠ 0) :
    RoundsTo ((1022 + n.log2) * hiddenBit + nearestSignificand n n.log2) (halfUnits n) := by
  obtain ⟨hlow, hhigh⟩ := nearestSignificand_bounds hn
  have htop : 2 ^ n.log2 ≤ n := Nat.log2_self_le hn
  rcases Nat.lt_or_ge 52 n.log2 with hround | hexact
  · have hunit : 2 ^ (1022 + n.log2) = 2 ^ (n.log2 - 52) * unitsOfOne := by
      rw [unitsOfOne, ← Nat.pow_add 2 (n.log2 - 52) 1074]
      congr 1
      omega
    have hsignificand : nearestSignificand n n.log2 = roundedShift n (n.log2 - 52) :=
      if_neg (Nat.not_le.mpr hround)
    have hleast : 2 ^ n.log2 = hiddenBit * 2 ^ (n.log2 - 52) := by
      rw [hiddenBit_eq, ← Nat.pow_add, Nat.add_sub_cancel' (Nat.le_of_lt hround)]
    obtain ⟨habove, hbelow, hodd⟩ := roundedShift_spec n (n.log2 - 52)
    rw [hsignificand] at hlow hhigh ⊢
    have hscale : ∀ a, a * 2 ^ (1022 + n.log2) = a * 2 ^ (n.log2 - 52) * unitsOfOne := fun a => by
      rw [hunit, Nat.mul_assoc]
    refine roundsTo_scaled hlow hhigh ?_ ?_ ?_ ?_
    · rw [hscale, hunit, halfUnits, ← Nat.add_mul]
      exact Nat.mul_le_mul_right _ habove
    · rw [hscale, halfUnits]
      exact Nat.mul_le_mul_right _ hbelow
    · intro hparity
      rw [hscale, hscale, hunit, halfUnits, ← Nat.add_mul]
      exact ⟨Nat.mul_lt_mul_of_pos_right (hodd hparity).1 unitsOfOne_pos,
        Nat.mul_lt_mul_of_pos_right (hodd hparity).2 unitsOfOne_pos⟩
    · intro hequal
      rw [hscale, halfUnits, hequal, Nat.mul_assoc 2, ← hleast]
      exact Nat.mul_le_mul_right _ (Nat.mul_le_mul_left 2 htop)
  · have hsignificand : nearestSignificand n n.log2 = n * 2 ^ (52 - n.log2) := by
      rw [nearestSignificand, if_pos hexact, Nat.shiftLeft_eq]
    have hpos : 0 < 2 ^ (1022 + n.log2) := Nat.two_pow_pos _
    have hhalf : halfUnits n = 2 * nearestSignificand n n.log2 * 2 ^ (1022 + n.log2) := by
      rw [halfUnits, ← two_pow_mul_two_pow hexact, hsignificand, ← Nat.mul_assoc, Nat.mul_assoc 2]
    rw [hhalf]
    refine roundsTo_scaled hlow hhigh (Nat.le_add_right _ _) ?_ (fun _ => ⟨?_, ?_⟩)
      fun _ => Nat.le_refl _
    · exact Nat.mul_le_mul_right _ (Nat.le_succ _)
    · exact Nat.lt_add_of_pos_right hpos
    · exact Nat.mul_lt_mul_of_pos_right (Nat.lt_succ_self _) hpos

theorem roundsTo_zero : RoundsTo 0 (halfUnits 0) := by
  have hzero : halfUnits 0 = boundary 0 := by
    rw [halfUnits, Nat.mul_zero, Nat.zero_mul]
    decide
  rw [hzero]
  exact ⟨Nat.le_refl _, boundary_strictMono.monotone (Nat.le_succ 0), by decide⟩

/-- `nearestBits` finds the pattern that a number rounds to, if it is a finite one. -/
theorem nearestBits_eq {n pattern : Nat} (h : RoundsTo pattern (halfUnits n))
    (hfinite : pattern < infinityBits) : nearestBits n = pattern := by
  rw [nearestBits]
  split
  · rename_i hzero
    rw [hzero] at h
    exact roundsTo_zero.unique h
  · rename_i hn
    rw [(roundsTo_nearest hn).unique h]
    exact Nat.min_eq_right (Nat.le_of_lt hfinite)

end Binary64

end Scriptlet
