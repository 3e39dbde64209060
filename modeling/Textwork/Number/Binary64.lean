/-
  Binary floating point numbers of 64 bits: a sign, a significand below `2 ^ 53`
  and a power of two, or an infinity, or no number.

  * `ofRatio` rounds a quotient to the nearest such number, halves to the even
    significand, and to an infinity past the largest one;
  * `ofDecimal` does so for a decimal fraction;
  * `toRat?` is the exact value, `truncated?` its integer part.
-/
import Textwork.Number.Quotient

namespace Textwork

/-- A binary floating point number.  A finite one is `± significand * 2 ^ exponent`. -/
inductive Binary64 where
  | finite (negative : Bool) (significand : Nat) (exponent : Int)
      (fits : significand < Nat.pow 2 53 ∧ -1074 ≤ exponent ∧ exponent ≤ 971)
  | infinite (negative : Bool)
  | nan
  deriving DecidableEq, Repr

namespace Binary64

/-- Zero, with a sign. -/
def zero (negative : Bool) : Binary64 := .finite negative 0 (-1074) (by decide)

/-- A significand and an exponent within bounds; a larger magnitude is infinite. -/
def pack (negative : Bool) (significand : Nat) (exponent : Int) : Binary64 :=
  if fits : significand < Nat.pow 2 53 ∧ -1074 ≤ exponent ∧ exponent ≤ 971 then
    .finite negative significand exponent fits
  else .infinite negative

/-- The exponent of the last bit that a number of the size of `num / den` keeps. -/
def lastBit (num den : Nat) : Int :=
  let low : Int := (Nat.log2 num : Int) - Nat.log2 den - 53
  let (n, d) := Rounding.scale 2 (-low) num den
  max (-1074) (if Nat.pow 2 53 * d ≤ n then low + 1 else low)

/-- The number nearest to `num / den`, halves to the even significand. -/
def ofRatio (negative : Bool) (num den : Nat) : Binary64 :=
  if num = 0 then zero negative
  else
    let q := lastBit num den
    let (n, d) := Rounding.scale 2 (-q) num den
    let m := Rounding.toNearestEven n d
    if m = Nat.pow 2 53 then pack negative (Nat.pow 2 52) (q + 1) else pack negative m q

/-- The number nearest to `coefficient * 10 ^ exponent`.  Beyond 400 digits before the point the
    magnitude is infinite, and zero if it starts after 400 places. -/
def ofDecimal (negative : Bool) (coefficient : Nat) (exponent : Int) : Binary64 :=
  let size := exponent + Rounding.decimalLength coefficient
  if coefficient = 0 then zero negative
  else if 400 < size then .infinite negative
  else if size < -400 then zero negative
  else
    let (n, d) := Rounding.scale 10 exponent coefficient 1
    ofRatio negative n d

/-- The number nearest to an integer. -/
def ofInt (n : Int) : Binary64 := ofRatio (n < 0) n.natAbs 1

/-- The number nearest to a fraction. -/
def ofRat (r : Rat) : Binary64 := ofRatio (r < 0) r.num.natAbs r.den

/-- Neither infinite nor NaN. -/
def isFinite : Binary64 → Bool
  | finite .. => true
  | _ => false

/-- The value of a finite number as numerator and denominator, without its sign. -/
def magnitude (significand : Nat) (exponent : Int) : Nat × Nat :=
  Rounding.scale 2 exponent significand 1

/-- The exact value of a finite number. -/
def toRat? : Binary64 → Option Rat
  | finite negative m q _ =>
    let (n, d) := magnitude m q
    some (mkRat (Numeral.withSign negative n) d)
  | _ => none

/-- A finite number truncated toward zero. -/
def truncated? : Binary64 → Option Int
  | finite negative m q _ =>
    let (n, d) := magnitude m q
    some (Numeral.withSign negative (n / d))
  | _ => none

/-- The number itself, negative zero replaced by zero. -/
def unsignedZero : Binary64 → Binary64
  | finite negative m q fits => if m = 0 then zero false else finite negative m q fits
  | x => x

end Binary64

end Textwork
