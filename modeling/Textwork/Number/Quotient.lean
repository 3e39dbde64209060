/-
  Quotients of natural numbers: rounded to an integer, and written with a given
  number of places.

  * `toNearestAway` and `toNearestEven` round to the nearest integer; a half
    goes away from zero, or to the even neighbour;
  * `decimalExponent` is the `x` with `10 ^ x ≤ num / den < 10 ^ (x + 1)`;
  * `fixed` rounds once to a number of places after the point;
  * `scientific` rounds to one digit before the point and the given number after
    it, and gives the exponent apart; a mantissa rounded up to ten is written
    with the next exponent;
  * `short` keeps a number of significant digits, drops trailing zeros, and uses
    the exponent form below `10 ^ -6` or when the exponent reaches that number.

  All notations round the exact quotient to nearest, a half away from zero.
-/
import Textwork.Number.Numeral

namespace Textwork.Rounding

/-- `num / den` rounded to the nearest integer, halves up. -/
def toNearestAway (num den : Nat) : Nat := (2 * num + den) / (2 * den)

/-- `num / den` rounded to the nearest integer, halves to the even one. -/
def toNearestEven (num den : Nat) : Nat :=
  let whole := num / den
  let twice := 2 * (num % den)
  if twice < den then whole
  else if twice = den ∧ whole % 2 = 0 then whole
  else whole + 1

/-- A quotient multiplied by `base ^ e`, as numerator and denominator. -/
def scale (base : Nat) (e : Int) (num den : Nat) : Nat × Nat :=
  if 0 ≤ e then (num * Nat.pow base e.toNat, den) else (num, den * Nat.pow base (-e).toNat)

/-- The number of decimal digits of a natural number; one for zero. -/
def decimalLength (n : Nat) : Nat := (Numeral.ofNat n).length

/-- The exponent of the leading decimal digit of a positive quotient. -/
def decimalExponent (num den : Nat) : Int :=
  if den ≤ num then (decimalLength (num / den) : Int) - 1
  else -(decimalLength ((den - 1) / num) : Int)

end Textwork.Rounding

namespace Textwork.Decimals

/-- `n / 10 ^ places` with exactly that many digits after the point. -/
def placed (n places : Nat) : Text :=
  let digits := Numeral.ofNat n
  let padded := List.replicate (places + 1 - digits.length) '0' ++ digits
  if places = 0 then padded
  else padded.take (padded.length - places) ++ '.' :: padded.drop (padded.length - places)

/-- A quotient rounded to a number of places. -/
def fixed (num den places : Nat) : Text :=
  placed (Rounding.toNearestAway (num * Nat.pow 10 places) den) places

/-- A quotient divided by `10 ^ (exponent - places)` and rounded to an integer. -/
def mantissaAt (num den places : Nat) (exponent : Int) : Nat :=
  let (n, d) := Rounding.scale 10 (places - exponent) num den
  Rounding.toNearestAway n d

/-- The mantissa of `places + 1` digits, as an integer, and the exponent; zero has the exponent
    zero. -/
def scientificParts (num den places : Nat) : Nat × Int :=
  if num = 0 then (0, 0)
  else
    let e := Rounding.decimalExponent num den
    let m := mantissaAt num den places e
    if Nat.pow 10 (places + 1) ≤ m then (mantissaAt num den places (e + 1), e + 1) else (m, e)

/-- The text of the mantissa, and the exponent. -/
def scientific (num den places : Nat) : Text × Int :=
  let (m, e) := scientificParts num den places
  (placed m places, e)

/-- A mantissa text with its exponent. -/
def withExponent (mantissa : Text) (exponent : Int) : Text :=
  mantissa ++ 'e' :: Numeral.signed exponent

/-- A text without the zeros at the end of its fraction, and without a point at its end. -/
def stripFractionZeros (t : Text) : Text :=
  if t.elem '.' then Text.trimEnd (· == '.') (Text.trimEnd (· == '0') t) else t

/-- The places after the point that the fixed form of a number of significant digits has; none in
    the exponent form. -/
def shortPlaces (num den precision : Nat) : Nat :=
  let significant := max precision 1
  let e := (scientificParts num den (significant - 1)).2
  if e < -6 ∨ significant ≤ e then 0 else (significant - 1 - e).toNat

/-- A quotient with a number of significant digits, in the shorter of the two notations. -/
def short (num den precision : Nat) : Text :=
  if num = 0 then ['0']
  else
    let significant := max precision 1
    let (mantissa, e) := scientific num den (significant - 1)
    if e < -6 ∨ significant ≤ e then withExponent (stripFractionZeros mantissa) e
    else stripFractionZeros (fixed num den (significant - 1 - e).toNat)

end Textwork.Decimals
