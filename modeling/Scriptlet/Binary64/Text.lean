import Scriptlet.Binary64.Shortest

/-!
# Doubles as text

A finite double is written with the fewest digits that read back. A style says which magnitudes
are written out in positional notation, the others taking an exponent, and whether a whole number
shows that it is a number with a fraction part.
-/

namespace Scriptlet

/-- How the digits of a number are laid out. -/
structure NumberStyle where
  /-- Whether a number whose first digit has the value `10 ^ e` is written out in full. -/
  positional : Int → Bool
  /-- Whether whole numbers written out in full end in `.0`. -/
  pointAlways : Bool

namespace NumberStyle

/-- In scripts and messages: always in full, and whole numbers without a point. -/
def plain : NumberStyle := ⟨fun _ => true, false⟩

/-- Where a value is inspected: in full from `10 ^ (-4)` to below `10 ^ 16`, and never without a
point or an exponent. -/
def inspected : NumberStyle := ⟨fun e => -4 ≤ e && e < 16, true⟩

end NumberStyle

namespace Decimal

/-- The power of ten of the first digit. -/
def leadingExponent (d : Decimal) : Int :=
  d.exponent + ((Nat.toDigits 10 d.digits).length : Int) - 1

def positional (pointAlways : Bool) (d : Decimal) : List Char :=
  let digits := Nat.toDigits 10 d.digits
  if 0 ≤ d.exponent then
    digits ++ List.replicate d.exponent.toNat '0' ++ if pointAlways then ['.', '0'] else []
  else
    let places := (-d.exponent).toNat
    if places < digits.length then
      digits.take (digits.length - places) ++ '.' :: digits.drop (digits.length - places)
    else
      '0' :: '.' :: List.replicate (places - digits.length) '0' ++ digits

/-- With one digit before the point and an exponent. -/
def scientific (d : Decimal) : List Char :=
  let exponent := 'e' :: (toString d.leadingExponent).toList
  match Nat.toDigits 10 d.digits with
  | [] => exponent
  | [first] => first :: exponent
  | first :: rest => first :: '.' :: rest ++ exponent

/-- In the notation that the style chooses. -/
def render (style : NumberStyle) (d : Decimal) : List Char :=
  if style.positional d.leadingExponent then d.positional style.pointAlways else d.scientific

end Decimal

namespace Binary64

/-- The digits of a number behind its sign. A NaN shows no sign. -/
def render (style : NumberStyle) (x : Binary64) : String :=
  if x.isNaN then "NaN"
  else
    let sign := if x.isNegative then ['-'] else []
    let magnitude := if x.isInfinite then ['i', 'n', 'f'] else x.shortest.render style
    String.ofList (sign ++ magnitude)

/-- As in a script. -/
def text (x : Binary64) : String := x.render .plain

/-- As shown where a value is inspected. -/
def inspect (x : Binary64) : String := x.render .inspected

end Binary64

end Scriptlet
