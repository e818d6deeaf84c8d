/-!
# Doubles as bit patterns

A number is the 64-bit pattern of an IEEE 754 binary64 value: a sign bit, eleven exponent bits
and fifty-two fraction bits. Keeping the pattern makes two different notions of sameness easy to
tell apart: `=` compares patterns, and `same` compares the way the format prescribes, by which
the two zeros agree and a NaN agrees with nothing.

Results:
1. `exponentField_le`: the exponent field fits its width.
-/

namespace Scriptlet

/-- A binary64 value, given by its bits. -/
structure Binary64 where
  bits : UInt64
  deriving DecidableEq, Inhabited

namespace Binary64

/-- The weight of the lowest exponent bit in a pattern, and of the hidden bit in a significand. -/
def hiddenBit : Nat := 1 <<< 52

/-- The weight of the sign bit in a pattern. -/
def signBit : Nat := 1 <<< 63

/-- The exponent field of the infinities and the NaNs. -/
def topField : Nat := 2047

/-- The eleven bits below the sign. -/
def exponentField (x : Binary64) : Nat := x.bits.toNat / hiddenBit % (topField + 1)

def fraction (x : Binary64) : Nat := x.bits.toNat % hiddenBit

/-- The pattern without its sign bit. -/
def unsignedBits (x : Binary64) : Nat := x.bits.toNat % signBit

/-- Is the sign bit set? -/
def isNegative (x : Binary64) : Bool := signBit ≤ x.bits.toNat

/-- Neither a number nor an infinity. -/
def isNaN (x : Binary64) : Bool := x.exponentField == topField && x.fraction != 0

def isInfinite (x : Binary64) : Bool := x.exponentField == topField && x.fraction == 0

def isZero (x : Binary64) : Bool := x.unsignedBits == 0

/-- The integer significand of a finite value, hidden bit included. -/
def significand (x : Binary64) : Nat :=
  if x.exponentField = 0 then x.fraction else hiddenBit + x.fraction

/-- The power of two that goes with `significand`: a finite value has the magnitude
`significand * 2 ^ exponent`. -/
def exponent (x : Binary64) : Int :=
  if x.exponentField = 0 then -1074 else (x.exponentField : Int) - 1075

/-- Equality of values: the zeros agree with each other, a NaN with nothing, and any other value
with its own pattern only. -/
def same (x y : Binary64) : Bool :=
  !x.isNaN && !y.isNaN && (x == y || (x.isZero && y.isZero))

theorem exponentField_le (x : Binary64) : x.exponentField ≤ topField :=
  Nat.le_of_lt_succ (Nat.mod_lt _ (Nat.succ_pos _))

end Binary64

end Scriptlet
