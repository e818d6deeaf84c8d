import Scriptlet.Binary64.Basic

/-!
# The fewest digits that read back

Every finite double owns an interval of reals that round to it. Of the decimals in that interval,
the one with the fewest digits is written, and of two with equally few the nearer one; at equal
distance the larger.

All arithmetic is exact. The interval is scaled by a power of ten that makes the value and both
ends natural numbers, and the multiples of `10 ^ k` next to the value are tried for falling `k`.
At `k = 0` the value itself is one, so the search always ends inside the interval.

Results:
1. `search_holds`: what the search finds lies in the interval.
-/

namespace Scriptlet

/-- The decimal `digits * 10 ^ exponent`. -/
structure Decimal where
  digits : Nat
  exponent : Int
  deriving DecidableEq

/-- The power of ten with this exponent. -/
def tenTo (k : Nat) : Nat := Nat.pow 10 k

/-- The numbers that round to one double, in units of `10 ^ (-scale)`. -/
structure RoundingInterval where
  scale : Nat
  low : Nat
  value : Nat
  high : Nat
  /-- Whether the ends themselves round to the double. -/
  closed : Bool

namespace RoundingInterval

/-- Does `n` units round to the double? -/
def holds (i : RoundingInterval) (n : Nat) : Bool :=
  if i.closed then i.low ≤ n && n ≤ i.high else i.low < n && n < i.high

/-- Looks for the largest power of ten, from `10 ^ k` down, with a multiple next to the value that
rounds to the double. The answer is the multiplier and the power. -/
def search (i : RoundingInterval) : Nat → Nat × Nat
  | 0 => (i.value, 0)
  | k + 1 =>
    let unit := tenTo (k + 1)
    let below := i.value / unit
    -- Where some multiple rounds to the double, so does one of the two next to the value.
    match i.holds (below * unit), i.holds ((below + 1) * unit) with
    | true, true => (if 2 * (i.value % unit) < unit then below else below + 1, k + 1)
    | true, false => (below, k + 1)
    | false, true => (below + 1, k + 1)
    | false, false => i.search k

/-- A power of ten that exceeds the interval: three digits in ten bits and a little more. -/
def topPower (i : RoundingInterval) : Nat := i.high.log2 * 31 / 100 + 1

def shortest (i : RoundingInterval) : Decimal :=
  let (digits, power) := i.search i.topPower
  ⟨digits, (power : Int) - i.scale⟩

theorem search_holds (i : RoundingInterval) (hvalue : i.holds i.value = true) (k : Nat) :
    i.holds ((i.search k).1 * tenTo (i.search k).2) = true := by
  induction k with
  | zero => simpa [search, tenTo] using hvalue
  | succ k ih =>
    unfold search
    dsimp only
    split
    · rename_i hbelow habove
      split
      · exact hbelow
      · exact habove
    · rename_i hbelow _
      exact hbelow
    · rename_i _ habove
      exact habove
    · exact ih

end RoundingInterval

namespace Binary64

/-- The next smaller double is only half as far away as the next larger one: so it is at the powers
of two, the smallest normal one apart. -/
def hasCloseLower (x : Binary64) : Bool := x.fraction == 0 && 1 < x.exponentField

/-- The interval of a finite double. Its ends are the midpoints to the neighbouring doubles; they
belong to it when the significand is even. In quarters of the last binary place the value is
`4 * significand`, and that place is `2 ^ e`, or `5 ^ (-e)` in units of `10 ^ e`. -/
def roundingInterval (x : Binary64) : RoundingInterval :=
  let quarters := 4 * x.significand
  let e := x.exponent - 2
  let place := if 0 ≤ e then 1 <<< e.toNat else Nat.pow 5 (-e).toNat
  { scale := (-e).toNat
    low := (quarters - if x.hasCloseLower then 1 else 2) * place
    value := quarters * place
    high := (quarters + 2) * place
    closed := x.significand % 2 == 0 }

/-- The shortest decimal that reads back as the magnitude of a finite double. -/
def shortest (x : Binary64) : Decimal :=
  if x.isZero then ⟨0, 0⟩ else x.roundingInterval.shortest

end Binary64

end Scriptlet
