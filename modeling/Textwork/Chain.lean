/-
  Chains: a value wrapped so that functions can be called on it one after the
  other.

  An explicit chain wraps every result; an implicit one only texts, and gives
  any other result as it is.  A step that fails leaves the chain as it was, but
  for the members of a sequence that it has walked through.

  * `Chain.step` makes one step, `Chain.run` a sequence of steps, which ends at
    the first plain result;
  * `Chain.afterFault` is what a step that fails leaves of a chain.

  What a callback gives for a value is a parameter, `calls`.
-/
import Textwork.Catalogue.Listing

namespace Textwork

/-- A wrapped value. -/
structure Chain where
  wrapped : Value
  explicit : Bool

namespace Chain

/-- The names that a chain has as every object has them, and those of its two members.  They are not
    looked up among the functions. -/
def objectNames : List Text := [
  "__class__", "__delattr__", "__dir__", "__doc__", "__eq__", "__format__", "__ge__",
  "__getattr__", "__getattribute__", "__getstate__", "__gt__", "__hash__", "__init__",
  "__init_subclass__", "__le__", "__lt__", "__module__", "__ne__", "__new__", "__reduce__",
  "__reduce_ex__", "__repr__", "__setattr__", "__sizeof__", "__slots__", "__str__",
  "__subclasshook__", "_wrapped", "_explicit"].map String.toList

/-- A name that is looked up among the operations of a chain and the functions. -/
abbrev Name := { name : Text // name ∉ objectNames }

/-- A step of a sequence.  A sequence among its values that can be walked through once is given to
    this step only, and not wrapped. -/
inductive Step where
  /-- a call of a function, or of an operation of the chain itself -/
  | call (name : Name) (args : List Value) (byName : List (Text × Value))
  /-- the value passed through a callback, or left as it is -/
  | thru (f : Value)
  | makeExplicit
  | value
  | display
  | shown
  | equals (other : Value)
  | hash
  /-- the name of a function -/
  | nameOf (name : Name)

/-- What a step gives. -/
inductive Answer where
  /-- a new chain -/
  | chain (c : Chain)
  /-- a value that ends the sequence -/
  | plain (v : Value)
  /-- a value beside the chain -/
  | result (v : Value)
  | fault (e : Fault)

section

variable (calls : Callback → Value → Except Fault Value)

/-! ## Operations -/

/-- A value passed through a callback, or left as it is if there is none. -/
def passThrough (f v : Value) : Except Fault Value :=
  match f with
  | .nothing => .ok v
  | .callback c => calls c v
  | _ => .error .wrongKind

/-- The chain of a result, or the result itself. -/
def wrapResult (c : Chain) (v : Value) : Answer :=
  if c.explicit || v matches .text _ then .chain ⟨v, c.explicit⟩ else .plain v

/-- An answer, or the fault instead of it. -/
def answer (r : Except Fault Answer) : Answer :=
  match r with
  | .ok a => a
  | .error e => .fault e

/-- The operation of a chain called `name`, with arguments. -/
def operation? (c : Chain) (name : Name) (args : List Value) (byName : List (Text × Value)) :
    Option (Except Fault Answer) :=
  let bare := args.isEmpty && byName.isEmpty
  if name.1 = "value".toList then
    some (if bare then .ok (.plain c.wrapped) else .error .wrongKind)
  else if name.1 = "chain".toList then
    some (if bare then .ok (.chain ⟨c.wrapped, true⟩) else .error .wrongKind)
  else if name.1 = "thru".toList then
    some (do
      let (values, _) ← Catalogue.Signature.bind
        ⟨[Catalogue.optional "function" .nothing], false⟩ args byName
      let v ← passThrough calls (values.headD .nothing) c.wrapped
      .ok (.chain ⟨v, c.explicit⟩))
  else if name.1 = "explicit".toList then some (.error .wrongKind)
  else none

/-- A call by name on the wrapped value. -/
def call (c : Chain) (name : Name) (args : List Value) (byName : List (Text × Value)) : Answer :=
  match c.operation? calls name args byName with
  | some r => answer r
  | none =>
    answer ((Catalogue.callIn Catalogue.functions name.1 (c.wrapped :: args) byName).result.map
      c.wrapResult)

/-- The name of the function or operation called `name`. -/
def nameOf (name : Name) : Except Fault Text :=
  if ["value", "chain", "thru"].any (·.toList == name.1) then .ok name.1
  else if name.1 = "explicit".toList then .error .noOperation
  else if (Catalogue.find? Catalogue.functions name.1).isSome then .ok name.1
  else .error (.noFunction name.1)

/-- The text of a chain. -/
def display (c : Chain) : Except Fault Text := c.wrapped.toText

/-- A chain as it is shown. -/
def shown (c : Chain) : Except Fault Text := do
  let v ← c.wrapped.shown
  .ok ("Chain(".toList ++ v ++ ", explicit=".toList ++ boolText c.explicit ++ [')'])

/-! ## Steps -/

/-- One step. -/
def step (c : Chain) : Step → Answer
  | .call name args byName => c.call calls name args byName
  | .thru f => answer ((passThrough calls f c.wrapped).map fun v => .chain ⟨v, c.explicit⟩)
  | .makeExplicit => .chain ⟨c.wrapped, true⟩
  | .value => .result c.wrapped
  | .display => answer (c.display.map fun t => .result (.text t))
  | .shown => answer (c.shown.map fun t => .result (.text t))
  | .equals other => .result (.bool (c.wrapped.same other))
  | .hash => .fault .wrongKind
  | .nameOf name => answer ((nameOf name).map fun t => .result (.text t))

/-! ## Sequences -/

/-- Whether the arguments of a call on the wrapped value fit the function called `name`. -/
def fits (c : Chain) (name : Text) (args : List Value) (byName : List (Text × Value)) : Bool :=
  (Catalogue.find? Catalogue.functions name).any fun e =>
    (e.signature.bind (c.wrapped :: args) byName).isOk

/-- The chain behind a step that failed.  Where a slug was to be made of the wrapped value, its
    members have been walked through; no other function walks through its subject. -/
def afterFault (c : Chain) (s : Step) : Chain :=
  match s with
  | .call name args byName =>
    if name.1 = "slugify".toList ∧ c.fits name.1 args byName then ⟨c.wrapped.unread, c.explicit⟩
    else c
  | _ => c

/-- The answers to a sequence of steps. -/
def run (c : Chain) : List Step → List Answer
  | [] => []
  | s :: rest =>
    let a := c.step calls s
    match a with
    | .chain next => a :: next.run rest
    | .plain _ => [a]
    | .result _ => a :: c.run rest
    | .fault _ => a :: (c.afterFault s).run rest

end

end Chain

end Textwork
