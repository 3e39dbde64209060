/-
  Directives of a template.

  A directive is `%` followed, in this order and each part optional, by a
  position `N$`, a sign `+`, a fill (`0`, a space, or a quote and any character
  but a line feed), an alignment `-`, a width, a point with a precision, and the
  letter of a conversion.  Numbers are runs of ASCII digits and are kept as they
  are written.

  * `Directive.written` writes a directive, `Directive.read` reads the longest
    one after a percent sign;
  * `written_read`: what is read and what is left make up the text;
  * `specification?` is what the directive asks for, `position?` its explicit
    position.
-/
import Textwork.Directive.Specification
import Textwork.Number.Numeral

namespace Textwork

/-- The fill named by a directive. -/
inductive Fill where
  | digitZero
  | space
  | custom (c : Char)
  deriving DecidableEq, Repr

/-- A fill as it is written. -/
def Fill.written : Fill → Text
  | digitZero => ['0']
  | space => [' ']
  | custom c => ['\'', c]

/-- A directive, its numbers as they are written. -/
structure Directive where
  position : Option Text
  plus : Bool
  fill : Option Fill
  minus : Bool
  width : Option Text
  precision : Option Text
  conversion : Option Conversion
  deriving DecidableEq, Repr

namespace Directive

/-! ## Writing -/

/-- A character that may be absent. -/
def flag (present : Bool) (c : Char) : Text := if present then [c] else []

/-- The part of a directive after its percent sign. -/
def tail (d : Directive) : Text :=
  ((d.position.map (· ++ ['$'])).getD []) ++
  (flag d.plus '+' ++
  (((d.fill.map Fill.written).getD []) ++
  (flag d.minus '-' ++
  ((d.width.getD []) ++
  (((d.precision.map ('.' :: ·)).getD []) ++
  ((d.conversion.map fun k => [k.letter]).getD []))))))

/-- A directive as it is written. -/
def written (d : Directive) : Text := '%' :: d.tail

/-! ## Reading the parts -/

/-- The digits at the start of a text, if there are any, and the rest. -/
def takeDigits (t : Text) : Option Text × Text :=
  match t.takeWhile Char.isDigit with
  | [] => (none, t)
  | ds => (some ds, t.dropWhile Char.isDigit)

/-- Digits with a dollar sign behind them. -/
def takePosition (t : Text) : Option Text × Text :=
  match takeDigits t with
  | (some ds, '$' :: rest) => (some ds, rest)
  | _ => (none, t)

/-- A given character. -/
def takeSign (sign : Char) : Text → Bool × Text
  | [] => (false, [])
  | c :: rest => if c = sign then (true, rest) else (false, c :: rest)

/-- A fill. -/
def takeFill : Text → Option Fill × Text
  | '0' :: rest => (some .digitZero, rest)
  | ' ' :: rest => (some .space, rest)
  | '\'' :: c :: rest => if c = '\n' then (none, '\'' :: c :: rest) else (some (.custom c), rest)
  | t => (none, t)

/-- A point with digits behind it. -/
def takePrecision (t : Text) : Option Text × Text :=
  match t with
  | '.' :: rest =>
    match takeDigits rest with
    | (some ds, rest) => (some ds, rest)
    | (none, _) => (none, t)
  | _ => (none, t)

/-- The letter of a conversion. -/
def takeConversion : Text → Option Conversion × Text
  | [] => (none, [])
  | c :: rest =>
    match Conversion.ofLetter? c with
    | some k => (some k, rest)
    | none => (none, c :: rest)

/-- The directive after a percent sign, and the rest of the text. -/
def read (t : Text) : Directive × Text :=
  let (position, t) := takePosition t
  let (plus, t) := takeSign '+' t
  let (fill, t) := takeFill t
  let (minus, t) := takeSign '-' t
  let (width, t) := takeDigits t
  let (precision, t) := takePrecision t
  let (conversion, t) := takeConversion t
  (⟨position, plus, fill, minus, width, precision, conversion⟩, t)

/-! ## Nothing is lost -/

theorem takeDigits_append (t : Text) : (takeDigits t).1.getD [] ++ (takeDigits t).2 = t := by
  unfold takeDigits
  split
  · simp
  · next ds h => simp [List.takeWhile_append_dropWhile]

theorem takePosition_append (t : Text) :
    (((takePosition t).1.map (· ++ ['$'])).getD []) ++ (takePosition t).2 = t := by
  unfold takePosition
  split
  · next ds rest h => simpa [h] using takeDigits_append t
  · simp

theorem takeSign_append (sign : Char) (t : Text) :
    flag (takeSign sign t).1 sign ++ (takeSign sign t).2 = t := by
  cases t with
  | nil => simp [takeSign, flag]
  | cons c rest => by_cases h : c = sign <;> simp [takeSign, flag, h]

theorem takeFill_append (t : Text) :
    (((takeFill t).1.map Fill.written).getD []) ++ (takeFill t).2 = t := by
  unfold takeFill
  split
  · simp [Fill.written]
  · simp [Fill.written]
  · split <;> simp [Fill.written]
  · simp

theorem takePrecision_append (t : Text) :
    (((takePrecision t).1.map ('.' :: ·)).getD []) ++ (takePrecision t).2 = t := by
  unfold takePrecision
  split
  · next rest =>
    split
    · next ds rest' h => simpa [h] using takeDigits_append rest
    · simp
  · simp

theorem takeConversion_append (t : Text) :
    (((takeConversion t).1.map fun k => [k.letter]).getD []) ++ (takeConversion t).2 = t := by
  cases t with
  | nil => simp [takeConversion]
  | cons c rest =>
    simp only [takeConversion]
    split
    · next k h =>
      have := List.find?_some h
      simp_all
    · simp

/-- What is read of a directive and what is left make up the text. -/
theorem written_read (t : Text) : (read t).1.tail ++ (read t).2 = t := by
  simp only [read, tail, List.append_assoc, takeConversion_append, takePrecision_append,
    takeDigits_append, takeSign_append, takeFill_append, takePosition_append]

/-- The rest after a directive is no longer than the text. -/
theorem length_rest_le (t : Text) : (read t).2.length ≤ t.length := by
  have h := congrArg List.length (written_read t)
  simp only [List.length_append] at h
  omega

/-! ## Meaning -/

/-- A number that is written, if it is not too long. -/
def number? : Option Text → Except Fault (Option Nat)
  | none => .ok none
  | some ds => (Numeral.read? ds).map some

/-- What a directive asks for. -/
def specification? (d : Directive) : Except Fault Specification := do
  let width ← number? d.width
  let precision ← number? d.precision
  .ok {
    percent := ['%']
    sign := if d.plus then some ['+'] else none
    padding := d.fill.map Fill.written
    alignment := if d.minus then some ['-'] else none
    width
    precision
    conversion := d.conversion }

/-- The explicit position of a directive. -/
def position? (d : Directive) : Except Fault (Option Nat) := number? d.position

end Directive

end Textwork
