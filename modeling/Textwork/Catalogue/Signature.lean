/-
  Functions that are called by name on values.

  A `Signature` lists the parameters of a function; `Signature.bind` matches
  arguments given in order and by name against it.  An `Entry` is a function
  with its name and signature.
-/
import Textwork.Trace

namespace Textwork.Catalogue

/-- A parameter: its name, its value if no argument is given, and whether the argument has to be
    given by name. -/
structure Parameter where
  name : String
  default : Option Value
  byName : Bool

/-- A parameter that needs an argument. -/
def required (name : String) : Parameter := ⟨name, none, false⟩

/-- A parameter that may be left out. -/
def optional (name : String) (default : Value) : Parameter := ⟨name, some default, false⟩

/-- A parameter that may be left out, and is given by name only. -/
def named (name : String) (default : Value) : Parameter := ⟨name, some default, true⟩

/-- The parameters of a function, and whether it takes further arguments behind them. -/
structure Signature where
  parameters : List Parameter
  variadic : Bool

/-- Parameters matched with arguments in order, and the arguments that are left. -/
def matchInOrder : List Parameter → List Value → List (Parameter × Option Value) × List Value
  | [], args => ([], args)
  | p :: ps, args =>
    match p.byName, args with
    | false, v :: rest =>
      let (matched, left) := matchInOrder ps rest
      ((p, some v) :: matched, left)
    | _, args =>
      let (matched, left) := matchInOrder ps args
      ((p, none) :: matched, left)

/-- The value of a parameter: the argument given in order, or by name, but not both; else the
    default. -/
def valueOf (byName : List (Text × Value)) (p : Parameter) (given : Option Value) :
    Except Fault Value :=
  match given, byName.lookup p.name.toList, p.default with
  | some _, some _, _ => .error .wrongKind
  | some v, none, _ => .ok v
  | none, some v, _ => .ok v
  | none, none, some v => .ok v
  | none, none, none => .error .wrongKind

/-- The values of the parameters, and the further arguments. -/
def Signature.bind (s : Signature) (args : List Value) (byName : List (Text × Value)) :
    Except Fault (List Value × List Value) := do
  let (matched, left) := matchInOrder s.parameters args
  if !left.isEmpty && !s.variadic then .error .wrongKind
  else if byName.any fun (name, _) => !s.parameters.any fun p => p.name.toList == name then
    .error .wrongKind
  else do
    let values ← matched.mapM fun (p, given) => valueOf byName p given
    .ok (values, left)

/-- A function on values, by the number of its parameters. -/
inductive Body where
  | one (f : Value → Traced Value)
  | two (f : Value → Value → Traced Value)
  | three (f : Value → Value → Value → Traced Value)
  | four (f : Value → Value → Value → Value → Traced Value)
  | five (f : Value → Value → Value → Value → Value → Traced Value)
  | rest (f : Value → List Value → Traced Value)

/-- A function applied to the values of its parameters and further arguments. -/
def Body.apply : Body → List Value → List Value → Traced Value
  | one f, [a], _ => f a
  | two f, [a, b], _ => f a b
  | three f, [a, b, c], _ => f a b c
  | four f, [a, b, c, d], _ => f a b c d
  | five f, [a, b, c, d, e], _ => f a b c d e
  | rest f, [a], more => f a more
  | _, _, _ => Traced.fail .wrongKind

/-- A function of the catalogue. -/
structure Entry where
  name : String
  signature : Signature
  body : Body

/-- A call with arguments in order and by name. -/
def Entry.call (e : Entry) (args : List Value) (byName : List (Text × Value)) : Traced Value := do
  let (values, more) ← Traced.ofExcept (e.signature.bind args byName)
  e.body.apply values more

/-- The parameter that most functions have first. -/
def subject : Parameter := optional "subject" .nothing

/-- A function of the subject alone. -/
def entry₁ (name : String) (f : Value → Except Fault Value) : Entry :=
  ⟨name, ⟨[subject], false⟩, .one fun a => .ofExcept (f a)⟩

/-- A function of the subject and one further parameter. -/
def entry₂ (name : String) (p : Parameter) (f : Value → Value → Except Fault Value) : Entry :=
  ⟨name, ⟨[subject, p], false⟩, .two fun a b => .ofExcept (f a b)⟩

/-- A function of the subject and two further parameters. -/
def entry₃ (name : String) (p q : Parameter) (f : Value → Value → Value → Except Fault Value) :
    Entry :=
  ⟨name, ⟨[subject, p, q], false⟩, .three fun a b c => .ofExcept (f a b c)⟩

/-- A function of the subject and three further parameters. -/
def entry₄ (name : String) (p q r : Parameter)
    (f : Value → Value → Value → Value → Except Fault Value) : Entry :=
  ⟨name, ⟨[subject, p, q, r], false⟩, .four fun a b c d => .ofExcept (f a b c d)⟩

/-- A function of a subject that is taken as a text. -/
def onText (f : Text → Value) (v : Value) : Except Fault Value := v.toText.map f

end Textwork.Catalogue
