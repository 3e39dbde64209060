/-
  The text of one argument under a specification.

  * `renderString`, `renderDecimal`, `renderUnsigned` and `renderFloat` give the
    text before padding, `render` chooses among them by the conversion;
  * `align` pads a text to the width;
  * `compute` does both.
-/
import Textwork.Directive.Specification
import Textwork.Number.Quotient
import Textwork.Settings
import Textwork.Text.Layout
import Textwork.Text.Casing
import Textwork.Value.Numbers

namespace Textwork.Directive

/-! ## Texts before padding -/

/-- A text with a plus sign before it, if one is asked for and the number is not negative. -/
def withPlus (s : Specification) (negative : Bool) (t : Text) : Text :=
  if s.forcesSign && !negative then '+' :: t else t

/-- The text of a value, cut to the precision. -/
def renderString (s : Specification) (v : Value) : Traced Text := do
  let t ← Traced.ofExcept v.toText
  pure ((s.precision.map t.take).getD t)

/-- A signed decimal integer. -/
def renderDecimal (s : Specification) (v : Value) : Traced Text := do
  let n ← v.leadingInt
  let t ← Traced.ofExcept (Numeral.write? n)
  pure (withPlus s (n < 0) t)

/-- The unsigned integer of `bits` bits that is congruent to `n`. -/
def unsignedForm (bits : Nat) (n : Int) : Nat := (n % (Nat.pow 2 bits : Nat)).toNat

/-- The character with a code; a code beyond the last character keeps its low 16 bits.  A surrogate,
    which no text here can hold, is represented by the replacement character. -/
def characterOf (n : Nat) : Char :=
  let code := if n ≤ 0x10FFFF then n else n % 0x10000
  if 0xD800 ≤ code ∧ code ≤ 0xDFFF then '\uFFFD' else Char.ofNat code

/-- The greatest number of bits of an integer that is written in base two, eight or sixteen: as many
    whole digits of 30 bits as can be counted in bits. -/
def maxDigitBits : Nat := 30 * ((Text.maxLength - 3) / 30)

/-- The numeral of an integer in base two, eight or sixteen, if it does not have too many bits. -/
def inBitBase (base n : Nat) : Except Fault Text :=
  if maxDigitBits < Numeral.bitLength n then .error .tooLarge else .ok (Numeral.inBase base n)

/-- An unsigned integer under one of the unsigned conversions. -/
def unsignedText (k : Conversion) (n : Nat) : Except Fault Text :=
  match k with
  | .character => .ok [characterOf n]
  | .binary => inBitBase 2 n
  | .octal => inBitBase 8 n
  | .hexadecimal => inBitBase 16 n
  | .hexadecimalUpper => (inBitBase 16 n).map fun t => t.map Char.toUpper
  | _ => Numeral.write? n

/-- An integer in two's complement of the word size. -/
def renderUnsigned (d : Defaults) (k : Conversion) (v : Value) : Traced Text := do
  let n ← v.leadingInt
  let bits ← Traced.ofExcept d.integerBits
  Traced.ofExcept (unsignedText k (unsignedForm bits n))

/-- The greatest number of digits after the point that are written: smaller units than this one are
    out of the range of exponents. -/
def keptPlaces : Nat := 1000026

/-- A quotient under one of the conversions of numbers with a point. -/
def floatText (k : Conversion) (num den precision : Nat) : Text :=
  match k with
  | .fixed => Decimals.fixed num den (min precision keptPlaces)
  | .scientific | .scientificUpper =>
    let (mantissa, e) := Decimals.scientific num den (min precision keptPlaces)
    Decimals.withExponent mantissa e
  | _ => Decimals.short num den precision

/-- The greatest number of digits after the point that a number is rounded to. -/
def maxPlaces : Nat := 2000054

/-- Refuses more digits after the point than a number is rounded to. -/
def checkPlaces (places : Nat) : Except Fault Unit :=
  if maxPlaces < places then .error .tooPrecise else .ok ()

/-- Refuses more digits after the point than a number is divided to.  Division keeps 800 digits more
    than it is asked for, and exact arithmetic has a limit of its own. -/
def checkQuotient (places : Nat) : Except Fault Unit :=
  if Text.maxLength < places + 800 then .error .tooLarge
  else if Nat.pow 10 18 ≤ places + 800 then .error .precisionRange
  else checkPlaces places

/-- Refuses a precision that a conversion cannot reach for a quotient. -/
def checkPrecision (k : Conversion) (num den precision : Nat) : Except Fault Unit :=
  match k with
  | .fixed => checkPlaces precision
  | .scientific | .scientificUpper =>
    if num = 0 then checkPlaces precision else checkQuotient precision
  | _ =>
    if num = 0 then .ok ()
    else do
      checkQuotient (precision - 1)
      checkPlaces (Decimals.shortPlaces num den precision)

/-- Whether the precision matters: under the short conversion zero is written without it. -/
def needsPrecision (k : Conversion) (num : Nat) : Bool :=
  num != 0 || k matches .fixed | .scientific | .scientificUpper

/-- The text of a binary number, without a plus sign. -/
def binaryText (d : Defaults) (s : Specification) (k : Conversion) (x : Binary64) :
    Except Fault Text :=
  match x with
  | .finite negative m q _ => do
    let (num, den) := Binary64.magnitude m q
    let precision ← match s.precision with
      | some p => .ok p
      | none => if needsPrecision k num then d.precision else .ok 0
    checkPrecision k num den precision
    let body := floatText k num den precision
    .ok (if negative then '-' :: body else body)
  | .infinite negative => .ok (if negative then "-Infinity".toList else "Infinity".toList)
  | .nan => .ok "-Infinity".toList

/-- Whether a binary number is below zero. -/
def isNegative : Binary64 → Bool
  | .finite negative m _ _ => negative && m != 0
  | .infinite negative => negative
  | .nan => false

/-- A number with a point. -/
def renderFloat (d : Defaults) (s : Specification) (k : Conversion) (v : Value) : Traced Text := do
  let x ← v.leadingFloat
  let t ← Traced.ofExcept (binaryText d s k x)
  pure (withPlus s (isNegative x) (if k.isUppercase then Text.upper t else t))

/-- The text of a value under a conversion, before padding. -/
def render (d : Defaults) (s : Specification) (k : Conversion) (v : Value) : Traced Text :=
  match k with
  | .string => renderString s v
  | .decimal | .integer => renderDecimal s v
  | .binary | .character | .octal | .unsigned | .hexadecimal | .hexadecimalUpper =>
    renderUnsigned d k v
  | .scientific | .scientificUpper | .fixed | .short | .shortUpper => renderFloat d s k v

/-! ## Padding -/

/-- A text brought to a width, with fill after it or before it. -/
def aligned (left : Bool) (width : Nat) (fill t : Text) : Text :=
  if left then t.padRight width fill else t.padLeft width fill

/-- A text brought to the width of a specification, with its fill or a default one; refused if the
    fill or the text with it cannot be addressed. -/
def align (s : Specification) (default t : Text) : Except Fault Text :=
  match s.width with
  | none => .ok t
  | some w => do
    Text.checkFill (s.fill default) (t.missing w) t.length
    .ok (aligned s.leftAligned w (s.fill default) t)

/-- The text of a value under a specification. -/
def compute (d : Defaults) (s : Specification) (v : Value) : Traced Text :=
  match s.conversion with
  | none => Traced.fail .noRendering
  | some k => do
    let t ← render d s k v
    Traced.ofExcept (align s d.padding t)

end Textwork.Directive
