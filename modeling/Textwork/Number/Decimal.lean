/-
  Decimal numbers: a sign, a coefficient and a power of ten, so that `1.0` and
  `1.00` differ; infinities; and NaNs, which may signal and carry digits.

  * `text` writes a number with an exponent when it has trailing zeros to add or
    more than six places before its first digit;
  * `ofText?` reads such a text;
  * `toRat?` and `truncated?` are the value and its integer part.
-/
import Textwork.Number.Reading

namespace Textwork

/-- A decimal number.  A finite one is `± coefficient * 10 ^ exponent`. -/
inductive Decimal where
  | finite (negative : Bool) (coefficient : Nat) (exponent : Int)
  | infinite (negative : Bool)
  | nan (negative signaling : Bool) (payload : Text)
  deriving DecidableEq, Repr

namespace Decimal

/-- The digits with the point after the first `point` of them. -/
def placePoint (digits : Text) (point : Int) : Text :=
  if point ≤ 0 then '0' :: '.' :: (List.replicate (-point).toNat '0' ++ digits)
  else if digits.length ≤ point.toNat then
    digits ++ List.replicate (point.toNat - digits.length) '0'
  else digits.take point.toNat ++ '.' :: digits.drop point.toNat

/-- The text of a decimal number. -/
def text : Decimal → Text
  | finite negative coefficient exponent =>
    let digits := Numeral.ofNat coefficient
    let left := exponent + digits.length
    let point : Int := if exponent ≤ 0 ∧ -6 < left then left else 1
    let tail := if left = point then [] else 'E' :: Numeral.signed (left - point)
    (if negative then ['-'] else []) ++ placePoint digits point ++ tail
  | infinite negative => (if negative then ['-'] else []) ++ "Infinity".toList
  | nan negative signaling payload =>
    (if negative then ['-'] else []) ++ (if signaling then ['s'] else []) ++ "NaN".toList ++ payload

/-- The digits after a NaN mark, without leading zeros, if they are digits. -/
def payload? (t : Text) : Option Text :=
  if t.all Char.isDigit then some (t.dropWhile (· == '0')) else none

/-- The decimal number that a text denotes as a whole. -/
def ofText? (t : Text) : Option Decimal :=
  let plain := (Numeral.normalized (Text.trimBoth Unicode.isBlank t)).filter (· != '_')
  let (negative, rest) := Numeral.splitSign plain
  match DecimalNumeral.leading? rest with
  | some (d, []) => some (.finite negative d.coefficient d.exponent)
  | some _ => none
  | none =>
    let word := Text.asciiLower rest
    if word = "inf".toList ∨ word = "infinity".toList then some (.infinite negative)
    else if "nan".toList.isPrefixOf word then (payload? (word.drop 3)).map (.nan negative false ·)
    else if "snan".toList.isPrefixOf word then (payload? (word.drop 4)).map (.nan negative true ·)
    else none

/-- The exact value of a finite number. -/
def toRat? : Decimal → Option Rat
  | finite negative coefficient exponent =>
    let (n, d) := Rounding.scale 10 exponent coefficient 1
    some (mkRat (Numeral.withSign negative n) d)
  | _ => none

/-- A finite number truncated toward zero. -/
def truncated? : Decimal → Option Int
  | finite negative coefficient exponent =>
    let (n, d) := Rounding.scale 10 exponent coefficient 1
    some (Numeral.withSign negative (n / d))
  | _ => none

end Decimal

end Textwork
