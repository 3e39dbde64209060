/-
  Values read as numbers.

  * `toInt?` is the integer that a value denotes: a number truncated toward
    zero, or a text or bytes that are an integer numeral; nothing for all other
    values; an infinite number is a fault;
  * `toIntOr` is the lenient reading with a default;
  * `isNumeric` tells whether a value is a finite number or the text of one;
  * `leadingInt` takes a number truncated toward zero, or the integer at the
    start of the text of any other value;
  * `leadingFloat` takes a number, or the one at the start of the text.

  Where there is no number the last two give zero and note it.  Integers and
  fractions beyond the largest binary number are infinite, which is noted too;
  negative zero becomes zero.
-/
import Textwork.Trace

namespace Textwork.Value

/-! ## Values that denote a number -/

/-- The bytes as a text in ASCII, if they are that. -/
def asciiText? (bytes : List UInt8) : Option Text :=
  if bytes.all (· < 128) then some (bytes.map fun b => Char.ofNat b.toNat) else none

/-- The integer that a value denotes. -/
def toInt? : Value → Except Fault (Option Int)
  | bool b => .ok (some (if b then 1 else 0))
  | int n => .ok (some n)
  | float (.infinite _) => .error .tooLarge
  | float x => .ok x.truncated?
  | fraction r => .ok (some (Int.tdiv r.num r.den))
  | decimal (.infinite _) => .error .tooLarge
  | decimal d => .ok d.truncated?
  | text t => .ok (Numeral.integer? t)
  | bytes b => .ok ((asciiText? b).bind Numeral.integer?)
  | _ => .ok none

/-- The integer that a value denotes, or the default; an infinite binary number denotes none. -/
def toIntOr (default : Int) : Value → Except Fault Int
  | float (.infinite _) => .ok default
  | v => (v.toInt?).map (·.getD default)

/-- A value used as a bound of a slice: nothing, an integer or a truth value. -/
def toBound : Value → Except Fault (Option Int)
  | nothing => .ok none
  | bool b => .ok (some (if b then 1 else 0))
  | int n => .ok (some n)
  | _ => .error .wrongKind

/-- Whether a value is a finite number other than a truth value, or the text of a finite number.
    An integer too large for a binary number is a fault. -/
def isNumeric : Value → Except Fault Bool
  | bool _ => .ok false
  | int n => if (Binary64.ofInt n).isFinite then .ok true else .error .tooLarge
  | float x => .ok x.isFinite
  | v => do
    let t ← v.toText
    .ok ((Binary64.ofText? (Text.trimBoth Unicode.isBlank t)).any (·.isFinite))

/-! ## Values that directives print as numbers -/

/-- The integer of a value. -/
def leadingInt (v : Value) : Traced Int :=
  match v with
  | bool b => pure (if b then 1 else 0)
  | int n => pure n
  | fraction r => pure (Int.tdiv r.num r.den)
  | float x =>
    match x.truncated? with
    | some n => pure n
    | none => do
      Traced.note (.noInteger v)
      pure 0
  | _ => do
    let t ← Traced.ofExcept v.toText
    match Numeral.leadingInteger? t with
    | some (negative, digits) => do
      let n ← Traced.ofExcept (Numeral.read? digits)
      pure (Numeral.withSign negative n)
    | none => do
      Traced.note (.noInteger v)
      pure 0

/-- A number that may have become infinite by rounding; if it has, it is noted. -/
def rounded (v : Value) (x : Binary64) : Traced Binary64 :=
  match x with
  | .infinite _ => do
    Traced.note (.overflow v)
    pure x
  | _ => pure x

/-- The binary number of a value, before NaN and negative zero are replaced. -/
def nearestFloat (v : Value) : Traced Binary64 :=
  match v with
  | bool b => pure (Binary64.ofInt (if b then 1 else 0))
  | int n => rounded v (Binary64.ofInt n)
  | fraction r => rounded v (Binary64.ofRat r)
  | float x => pure x
  | _ => do
    let t ← Traced.ofExcept v.toText
    pure ((Binary64.ofPrefix? t).getD .nan)

/-- The binary number of a value. -/
def leadingFloat (v : Value) : Traced Binary64 := do
  match ← nearestFloat v with
  | .nan => do
    Traced.note (.noNumber v)
    pure (Binary64.zero false)
  | x => pure x.unsignedZero

end Textwork.Value
