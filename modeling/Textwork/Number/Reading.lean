/-
  Texts read as decimal fractions.

  * `leadingDecimal?` takes the longest start of a text that is a decimal
    numeral: digits with an optional point and digits, or a point and digits,
    then an optional exponent;
  * `Binary64.ofPrefix?` reads the number at the start of a text, ignoring what
    follows it;
  * `Binary64.ofText?` reads a whole text.
-/
import Textwork.Number.Binary64

namespace Textwork

/-- An unsigned decimal numeral: `coefficient * 10 ^ exponent`. -/
structure DecimalNumeral where
  coefficient : Nat
  exponent : Int
  deriving DecidableEq, Repr

namespace DecimalNumeral

/-- An exponent mark, an optional sign and digits: the exponent and the rest of the text.  Without
    them the exponent is zero and nothing is taken. -/
def takeExponent (t : Text) : Int × Text :=
  match t with
  | c :: rest =>
    if c = 'e' ∨ c = 'E' then
      let (negative, digits) := Numeral.splitSign rest
      match digits.takeWhile Char.isDigit with
      | [] => (0, t)
      | ds => (Numeral.withSign negative (Numeral.value ds), digits.dropWhile Char.isDigit)
    else (0, t)
  | [] => (0, [])

/-- A point and the digits after it: the digits and the rest.  `bare` tells whether a point may
    stand without digits after it. -/
def takeFraction? (bare : Bool) : Text → Option (Text × Text)
  | '.' :: rest =>
    let ds := rest.takeWhile Char.isDigit
    if ds.isEmpty && !bare then none else some (ds, rest.dropWhile Char.isDigit)
  | _ => none

/-- The numeral at the start of a text and the rest of the text. -/
def leading? (t : Text) : Option (DecimalNumeral × Text) :=
  let whole := t.takeWhile Char.isDigit
  let rest := t.dropWhile Char.isDigit
  let parts :=
    match takeFraction? (!whole.isEmpty) rest with
    | some (fraction, after) => some (fraction, after)
    | none => if whole.isEmpty then none else some ([], rest)
  parts.map fun (fraction, after) =>
    let (exponent, after) := takeExponent after
    (⟨Numeral.value (whole ++ fraction), exponent - fraction.length⟩, after)

end DecimalNumeral

namespace Binary64

/-- The number that a decimal numeral with a sign denotes. -/
def ofNumeral (negative : Bool) (d : DecimalNumeral) : Binary64 :=
  ofDecimal negative d.coefficient d.exponent

/-- The number at the start of a text: blanks, a sign, then a decimal numeral or `Infinity`. -/
def ofPrefix? (t : Text) : Option Binary64 :=
  let (negative, rest) := Numeral.splitSign (Text.trimStart Unicode.isBlank t)
  match DecimalNumeral.leading? rest with
  | some (d, _) => some (ofNumeral negative d)
  | none => if "Infinity".toList.isPrefixOf rest then some (.infinite negative) else none

/-- The number that a text denotes as a whole: blanks around it, a sign, then a decimal numeral in
    digits of any script with single underscores between digits, or `inf`, `infinity` or `nan` in
    any case. -/
def ofText? (t : Text) : Option Binary64 :=
  match Numeral.withoutUnderscores? false (Numeral.normalized t) with
  | none => none
  | some plain =>
    let (negative, rest) := Numeral.splitSign plain
    match DecimalNumeral.leading? rest with
    | some (d, []) => some (ofNumeral negative d)
    | some _ => none
    | none =>
      let word := Text.asciiLower rest
      if word = "inf".toList ∨ word = "infinity".toList then some (.infinite negative)
      else if word = "nan".toList then some .nan
      else none

end Binary64

end Textwork
