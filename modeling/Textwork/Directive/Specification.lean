/-
  What a directive asks for, apart from the choice of its argument.

  * `Conversion`: what is made of the argument, each with its letter.
    `ofLetter?` reads a letter and `letter` writes it; `ofLetter?_letter` says
    that the first undoes the second.
  * `Specification` keeps sign, fill and alignment as they were given.  Only `+`
    forces a sign and only `-` aligns to the left; the fill is the text given,
    or the character after a quote if the text is a quote and one character.
-/
import Textwork.Text.Basic

namespace Textwork

/-- What a directive makes of its argument. -/
inductive Conversion where
  /-- the text, cut to the precision -/
  | string
  /-- a signed decimal integer -/
  | decimal
  /-- a signed decimal integer, under its other letter -/
  | integer
  | binary
  /-- the character with the number as its code -/
  | character
  | octal
  /-- an unsigned decimal integer -/
  | unsigned
  | hexadecimal
  | hexadecimalUpper
  | scientific
  | scientificUpper
  /-- a number of places after the point -/
  | fixed
  /-- the shorter of fixed and scientific notation -/
  | short
  | shortUpper
  deriving DecidableEq, Repr

namespace Conversion

/-- All conversions. -/
def all : List Conversion := [string, decimal, integer, binary, character, octal, unsigned,
  hexadecimal, hexadecimalUpper, scientific, scientificUpper, fixed, short, shortUpper]

/-- The letter of a conversion. -/
def letter : Conversion → Char
  | string => 's'
  | decimal => 'd'
  | integer => 'i'
  | binary => 'b'
  | character => 'c'
  | octal => 'o'
  | unsigned => 'u'
  | hexadecimal => 'x'
  | hexadecimalUpper => 'X'
  | scientific => 'e'
  | scientificUpper => 'E'
  | fixed => 'f'
  | short => 'g'
  | shortUpper => 'G'

/-- The conversion of a letter. -/
def ofLetter? (c : Char) : Option Conversion := all.find? fun k => k.letter == c

/-- Reading undoes writing. -/
theorem ofLetter?_letter (k : Conversion) : ofLetter? k.letter = some k := by
  cases k <;> rfl

/-- The name under which a conversion is listed. -/
def name : Conversion → String
  | string => "STRING"
  | decimal => "INTEGER_DECIMAL"
  | integer => "INTEGER"
  | binary => "INTEGER_BINARY"
  | character => "INTEGER_ASCII_CHARACTER"
  | octal => "INTEGER_OCTAL"
  | unsigned => "INTEGER_UNSIGNED_DECIMAL"
  | hexadecimal => "INTEGER_HEXADECIMAL"
  | hexadecimalUpper => "INTEGER_HEXADECIMAL_UPPERCASE"
  | scientific => "FLOAT_SCIENTIFIC"
  | scientificUpper => "FLOAT_SCIENTIFIC_UPPERCASE"
  | fixed => "FLOAT"
  | short => "FLOAT_SHORT"
  | shortUpper => "FLOAT_SHORT_UPPERCASE"

/-- Whether the letter is a capital, so that the text is put in upper case. -/
def isUppercase (k : Conversion) : Bool := k.letter.isUpper

end Conversion

/-- The wish of a directive. -/
structure Specification where
  /-- the percent text: two signs for a literal one -/
  percent : Text
  sign : Option Text
  padding : Option Text
  alignment : Option Text
  /-- the least length of the result -/
  width : Option Nat
  precision : Option Nat
  conversion : Option Conversion
  deriving DecidableEq, Repr

namespace Specification

/-- The specification of a plain `%` without any part. -/
def bare : Specification := ⟨['%'], none, none, none, none, none, none⟩

/-- The specification of a literal percent sign. -/
def literalPercent : Specification := { bare with percent := ['%', '%'] }

/-- Whether the directive stands for a percent sign. -/
def isPercentLiteral (s : Specification) : Bool := s.percent == ['%', '%']

/-- Whether numbers from zero on carry a plus sign. -/
def forcesSign (s : Specification) : Bool := s.sign == some ['+']

/-- Whether the fill goes behind the result. -/
def leftAligned (s : Specification) : Bool := s.alignment == some ['-']

/-- The fill, if the directive names one. -/
def fill (s : Specification) (default : Text) : Text :=
  match s.padding with
  | none => default
  | some ['\'', c] => [c]
  | some t => t

end Specification

end Textwork
