/-
  Why a call can fail.  Each constructor names a cause; `Fault.message` holds
  the wording of those that have one.
-/
import Textwork.Text.Basic

namespace Textwork

/-- The ways in which a call fails. -/
inductive Fault where
  /-- a directive without a type letter -/
  | noTypeLetter
  /-- a directive that asks for an argument past the last one -/
  | tooFewArguments
  /-- a directive with the explicit position zero -/
  | positionZero
  /-- a number of fraction digits below zero -/
  | negativePrecision
  /-- a word size of no bits -/
  | noIntegerBits
  /-- a fill that is not one character -/
  | paddingLength
  /-- settings of unknown names -/
  | unknownOptions (names : List Text)
  /-- a setting that should be an integer, with the given value as shown -/
  | notAnInteger (option : String) (shown : Text)
  /-- a numeral that cannot be read or is too long to be read or written -/
  | numeral
  /-- compilation flags that contradict each other -/
  | flagConflict
  /-- an argument of the wrong kind, a missing argument or one too many -/
  | wrongKind
  /-- a predicate that cannot be called -/
  | predicateNotCallable
  /-- a size that cannot be addressed, or a number without finite value -/
  | tooLarge
  /-- a specification without a type letter where one is needed -/
  | noRendering
  /-- no library function of this name -/
  | noFunction (name : Text)
  /-- a value without the operation asked for -/
  | noOperation
  /-- a pattern or a replacement template that cannot be read -/
  | badPattern
  /-- a group name that the pattern does not define -/
  | unknownGroup
  /-- an order asked of a NaN -/
  | unordered
  /-- more digits after the point than a number is rounded to -/
  | tooPrecise
  /-- a number of digits beyond all exact arithmetic -/
  | precisionRange
  deriving DecidableEq, Repr

namespace Fault

/-- The names, with a comma and a space between neighbours. -/
def listed (names : List Text) : Text := Text.join [',', ' '] names

/-- The wording of a fault, for the faults that have one. -/
def message : Fault → Option Text
  | noTypeLetter => some "sprintf(): Unknown type specifier".toList
  | tooFewArguments => some "sprintf(): Too few arguments".toList
  | positionZero => some "sprintf(): Argument number must be greater than zero".toList
  | negativePrecision => some "float_precision must not be negative".toList
  | noIntegerBits => some "integer_bits must be positive".toList
  | paddingLength => some "padding must be a single character".toList
  | unknownOptions names => some ("unknown formatter option(s): ".toList ++ listed names)
  | notAnInteger option shown =>
    some (option.toList ++ " must be an integer, got ".toList ++ shown)
  | predicateNotCallable => some "predicate must be callable".toList
  | noFunction name => some ("Chain has no function '".toList ++ name ++ ['\''])
  | _ => none

/-- The faults of a template applied to its arguments. -/
def isTemplateFault : Fault → Bool
  | noTypeLetter | tooFewArguments | positionZero => true
  | _ => false

/-- The faults of settings. -/
def isSettingsFault : Fault → Bool
  | negativePrecision | noIntegerBits | paddingLength | unknownOptions _ | notAnInteger _ _ => true
  | _ => false

end Fault

end Textwork
