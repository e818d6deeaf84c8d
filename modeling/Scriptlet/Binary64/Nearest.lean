import Scriptlet.Binary64.Basic

/-!
# The double nearest to a natural number

A run of digits names a natural number of any size; the double that stands for it is the nearest
one, and of two equally near ones the one with the even significand. Numbers that round to
`2 ^ 1024` or beyond become infinity.

The pattern is put together by one addition. With `top` the position of the highest bit, the
significand lies between `2 ^ 52` and `2 ^ 53`, both included, and
`(1022 + top) * 2 ^ 52 + significand` is the pattern also when rounding up has carried into the
next power of two.

Results:
1. `ofNumeral_of_digits`: every run of digits is a numeral.
-/

namespace Scriptlet

/-- The number that a run of decimal digits denotes. -/
def decimalValue (digits : List Char) : Nat :=
  digits.foldl (fun n c => 10 * n + (c.toNat - '0'.toNat)) 0

/-- `n / 2 ^ k` to the nearest integer; a half goes to the even one. -/
def roundedShift (n k : Nat) : Nat :=
  let unit := 1 <<< k
  let quotient := n / unit
  let remainder := n % unit
  if unit < 2 * remainder ∨ (2 * remainder = unit ∧ quotient % 2 = 1) then quotient + 1
  else quotient

namespace Binary64

def infinityBits : Nat := topField * hiddenBit

/-- The fifty-three bit significand of a positive number whose highest bit is at `top`. -/
def nearestSignificand (n top : Nat) : Nat :=
  if top ≤ 52 then n <<< (52 - top) else roundedShift n (top - 52)

/-- The pattern of the double nearest to `n`. -/
def nearestBits (n : Nat) : Nat :=
  if n = 0 then 0
  else min infinityBits ((1022 + n.log2) * hiddenBit + nearestSignificand n n.log2)

def nearest (n : Nat) : Binary64 := ⟨UInt64.ofNat (nearestBits n)⟩

/-- The double that a run of decimal digits denotes. -/
def ofDigits (digits : List Char) : Binary64 := nearest (decimalValue digits)

/-- The double that a numeral denotes. A numeral is one digit or more and nothing else. -/
def ofNumeral (text : List Char) : Option Binary64 :=
  if !text.isEmpty && text.all Char.isDigit then some (ofDigits text) else none

theorem nearest_zero : nearest 0 = ⟨0⟩ := rfl

theorem ofNumeral_of_digits {digits : List Char} (hne : digits ≠ [])
    (hdigits : ∀ c ∈ digits, c.isDigit = true) : ofNumeral digits = some (ofDigits digits) := by
  rw [ofNumeral, List.isEmpty_eq_false_iff.mpr hne, List.all_eq_true.mpr hdigits]
  rfl

end Binary64

example : Binary64.nearest (2 ^ 53 + 1) = Binary64.nearest (2 ^ 53) := by decide +kernel
example : Binary64.nearest (2 ^ 1024 - 2 ^ 970) = ⟨0x7FF0000000000000⟩ := by decide +kernel
example : Binary64.nearest (2 ^ 1024 - 2 ^ 970 - 1) = ⟨0x7FEFFFFFFFFFFFFF⟩ := by decide +kernel

end Scriptlet
