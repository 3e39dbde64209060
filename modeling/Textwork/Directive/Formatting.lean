/-
  Templates applied to arguments.

  Directives without a position take the arguments in turn, those with a
  position the argument of that number.  `check` refuses a directive without a
  conversion, then one past the last argument, then the position zero; the first
  directive that is refused ends the whole.

  * `format` applies a template to arguments;
  * `formatValue` takes both as values.
-/
import Textwork.Directive.Template
import Textwork.Directive.Rendering

namespace Textwork.Directive

/-- The index of the argument that a directive takes and the index that the next directive without
    a position will take; positions count from one, indexes from zero. -/
def resolve (position : Option Int) (next : Int) : Int × Int :=
  match position with
  | some p => (p - 1, next)
  | none => (next, next + 1)

/-- The conversion of a directive that takes the argument `index` of `count`. -/
def check (index count : Int) (conversion : Option Conversion) : Except Fault Conversion :=
  match conversion with
  | none => .error .noTypeLetter
  | some k =>
    if count ≤ index then .error .tooFewArguments
    else if index < 0 then .error .positionZero
    else .ok k

/-- The text of one directive, and the next index. -/
def formatDirective (d : Defaults) (arguments : List Value) (next : Int) (dir : Directive) :
    Traced (Text × Int) := do
  let spec ← Traced.ofExcept dir.specification?
  let position ← Traced.ofExcept dir.position?
  let (index, next) := resolve (position.map Int.ofNat) next
  let k ← Traced.ofExcept (check index arguments.length spec.conversion)
  Traced.note (.directive dir.written position index.toNat k.letter)
  let t ← compute d spec ((arguments[index.toNat]?).getD .nothing)
  pure (t, next)

/-- The text of segments, `next` being the index for a directive without a position. -/
def formatFrom (d : Defaults) (arguments : List Value) (next : Int) :
    List Template.Segment → Traced Text
  | [] => pure []
  | .plain t :: rest => (t ++ ·) <$> formatFrom d arguments next rest
  | .percent :: rest => ('%' :: ·) <$> formatFrom d arguments next rest
  | .directive dir :: rest => do
    let (t, next) ← formatDirective d arguments next dir
    (t ++ ·) <$> formatFrom d arguments next rest

/-- A template applied to arguments. -/
def format (d : Defaults) (template : Text) (arguments : List Value) : Traced Text :=
  formatFrom d arguments 0 (Template.scan template)

/-- A template given as a value, applied to arguments given one by one. -/
def formatArguments (d : Defaults) (template : Value) (arguments : List Value) : Traced Text := do
  let t ← Traced.ofExcept template.toText
  if t.isEmpty then pure [] else format d t arguments

/-- A template given as a value, applied to the members of a value; a false value has none.  The
    empty template does not look at them. -/
def formatValue (d : Defaults) (template arguments : Value) : Traced Text := do
  let t ← Traced.ofExcept template.toText
  if t.isEmpty then pure []
  else do
    let args ← Traced.ofExcept (if arguments.isTrue then arguments.items else .ok [])
    format d t args

end Textwork.Directive
