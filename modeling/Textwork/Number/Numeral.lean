/-
  Numerals: integers written in a base, and the texts that are read as integers.

  * `ofNat`, `ofInt` and `inBase` write a number, `value` reads decimal digits;
    `bitLength` is the number of its binary digits;
  * `write?` refuses numbers of more than `maxDigits` digits and `read?` digit
    runs longer than that;
  * `integer?` reads a whole text: blanks around it, a sign, the decimal digits
    of any script, single underscores between digits.
-/
import Textwork.Fault
import Textwork.Unicode.Letter

namespace Textwork.Numeral

/-! ## Writing -/

/-- The longest decimal numeral that is read or written. -/
def maxDigits : Nat := 4300

/-- The decimal numeral of a natural number. -/
def ofNat (n : Nat) : Text := Nat.toDigits 10 n

/-- The decimal numeral of an integer. -/
def ofInt : Int → Text
  | .ofNat n => ofNat n
  | .negSucc n => '-' :: ofNat (n + 1)

/-- The number of binary digits of a natural number, none of zero. -/
def bitLength (n : Nat) : Nat := if n = 0 then 0 else Nat.log2 n + 1

/-- The numeral of a natural number with digits `0` to `9` and `a` to `f`. -/
def inBase (base n : Nat) : Text := Nat.toDigits base n

/-- The decimal numeral of an integer, if it is not too long. -/
def write? (n : Int) : Except Fault Text :=
  let digits := ofNat n.natAbs
  if digits.length > maxDigits then .error .numeral
  else .ok (if n < 0 then '-' :: digits else digits)

/-- The numeral of `n` with an explicit sign. -/
def signed (n : Int) : Text := if n < 0 then ofInt n else '+' :: ofInt n

/-! ## Reading digits -/

/-- The value of a run of ASCII digits. -/
def value (digits : Text) : Nat := digits.foldl (fun n c => 10 * n + (c.toNat - '0'.toNat)) 0

/-- The value of a run of ASCII digits, if it is not too long. -/
def read? (digits : Text) : Except Fault Nat :=
  if digits.length > maxDigits then .error .numeral else .ok (value digits)

/-- An integer with the given sign. -/
def withSign (negative : Bool) (n : Nat) : Int := if negative then -(n : Int) else n

/-- The sign at the start of a text, and what follows it. -/
def splitSign : Text → Bool × Text
  | '-' :: rest => (true, rest)
  | '+' :: rest => (false, rest)
  | t => (false, t)

/-! ## Reading whole texts -/

/-- Blank in ASCII numerals: tab, line feed, vertical tab, form feed, return, space. -/
def isAsciiBlank (c : Char) : Bool := c == ' ' || ('\t' ≤ c && c ≤ '\r')

/-- The ASCII character that stands for `c` in a numeral: blanks and digits of other scripts are
    written as a space and as the digit of the same value, anything else beyond ASCII as `?`. -/
def asciiForm (c : Char) : Char :=
  if c.toNat < 127 then c
  else if Unicode.isBlank c then ' '
  else
    match Unicode.decimalValue? c with
    | some d => Char.ofNat ('0'.toNat + d)
    | none => '?'

/-- A text in ASCII form, without blanks around it. -/
def normalized (t : Text) : Text := Text.trimBoth isAsciiBlank (t.map asciiForm)

/-- The text without its underscores, if each stands between two digits; `afterDigit` tells whether
    a digit came before. -/
def withoutUnderscores? (afterDigit : Bool) : Text → Option Text
  | [] => some []
  | '_' :: c :: rest =>
    if afterDigit && c.isDigit then (withoutUnderscores? true rest).map (c :: ·) else none
  | c :: rest =>
    if c = '_' then none else (withoutUnderscores? c.isDigit rest).map (c :: ·)

/-- The integer that a text denotes as a whole. -/
def integer? (t : Text) : Option Int :=
  let (negative, digits) := splitSign (normalized t)
  match withoutUnderscores? false digits with
  | some ds =>
    if ds.isEmpty || !ds.all Char.isDigit || ds.length > maxDigits then none
    else some (withSign negative (value ds))
  | none => none

/-! ## Reading a leading numeral -/

/-- A sign and ASCII digits after blanks, at the start of a text: the sign and the digits. -/
def leadingInteger? (t : Text) : Option (Bool × Text) :=
  let (negative, rest) := splitSign (Text.trimStart Unicode.isBlank t)
  match rest.takeWhile Char.isDigit with
  | [] => none
  | digits => some (negative, digits)

end Textwork.Numeral
