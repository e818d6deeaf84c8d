import Mathlib.Algebra.Group.Nat.Defs
import Scriptlet.Binary64.Basic

/-!
# The double that stands for a natural number

What a double is worth, and which double stands for a natural number: a finite one as long as the
number is below a threshold, half-way from the largest finite double to the next power of two.
Then no finite double of either sign lies nearer to the number, and of two that lie equally near
it is the one with the even significand.

A value is an integer here, in units of `2 ^ (-1074)`, the smallest double.
-/

namespace Scriptlet

namespace Binary64

/-- Neither an infinity nor a NaN. -/
def IsFinite (x : Binary64) : Prop := x.exponentField ≠ topField

instance decidableIsFinite (x : Binary64) : Decidable x.IsFinite :=
  inferInstanceAs (Decidable (x.exponentField ≠ topField))

/-- The value has no fraction: where the exponent is negative, the bits of the
significand that stand for a fraction are clear. -/
def IsWhole (x : Binary64) : Prop := x.exponent < 0 → 2 ^ (-x.exponent).toNat ∣ x.significand

/-- How many units make one. -/
def unitsOfOne : Nat := 2 ^ 1074

/-- The value of a finite double, in units of `2 ^ (-1074)`. -/
def units (x : Binary64) : Int :=
  let size : Nat := x.significand * 2 ^ (x.exponent + 1074).toNat
  if x.isNegative then -size else size

/-- How far a finite double lies from a natural number, in units of `2 ^ (-1074)`. -/
def distance (x : Binary64) (n : Nat) : Nat := (x.units - (n * unitsOfOne : Nat)).natAbs

/-- The double is finite and none lies nearer to `n`. If another value lies as near, the
significand of this one is even. -/
structure IsNearest (x : Binary64) (n : Nat) : Prop where
  finite : x.IsFinite
  nearest : ∀ y : Binary64, y.IsFinite → x.distance n ≤ y.distance n
  even : ∀ y : Binary64, y.IsFinite → y.units ≠ x.units → y.distance n = x.distance n →
    x.significand % 2 = 0

/-- Half-way from the largest finite double, `2 ^ 1024 - 2 ^ 971`, to `2 ^ 1024`. -/
def overflowThreshold : Nat := 2 ^ 1024 - 2 ^ 970

/-- The double stands for a natural number: it has no sign, it is the nearest one below the
threshold and infinity from there on, and up to `2 ^ 53` it is the number itself. -/
structure StandsFor (x : Binary64) (n : Nat) : Prop where
  unsigned : x.isNegative = false
  nearest : n < overflowThreshold → x.IsNearest n
  infinite_iff : x.isInfinite = true ↔ overflowThreshold ≤ n
  exact : n ≤ 2 ^ 53 → x.units = (n * unitsOfOne : Nat)

end Binary64

end Scriptlet
