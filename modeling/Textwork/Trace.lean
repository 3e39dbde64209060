/-
  Computations that may fail and that leave notes on their way.

  A `Traced` value holds the notes in the order in which they were made and the
  result or fault at the end; the notes made before a fault are kept.
-/
import Textwork.Value.Display

namespace Textwork

/-- What a computation notes. -/
inductive Note where
  /-- a directive met in a template: its text, its explicit position, the index of its argument and
      its letter -/
  | directive (written : Text) (position : Option Nat) (index : Nat) (letter : Char)
  /-- a value without an integer, taken for zero -/
  | noInteger (v : Value)
  /-- a value that is no number, taken for zero -/
  | noNumber (v : Value)
  /-- a number beyond the largest binary one, taken for infinity -/
  | overflow (v : Value)

namespace Note

/-- The wording of a note. -/
def text : Note → Except Fault Text
  | directive written position index letter =>
    .ok ("directive text=".toList ++ Text.quoted written ++ " position=".toList ++
      ((position.map Numeral.ofNat).getD "None".toList) ++ " index=".toList ++
      Numeral.ofNat index ++ " type=".toList ++ [letter])
  | noInteger v => v.shown.map fun t => "parse_int value=".toList ++ t ++ " fallback=0".toList
  | noNumber v => v.shown.map fun t => "parse_float value=".toList ++ t ++ " fallback=0".toList
  | overflow v => v.shown.map fun t => "parse_float value=".toList ++ t ++ " fallback=inf".toList

/-- The channel on which a note is made. -/
def channel : Note → Text
  | directive .. => "stringcraft.format.sprintf".toList
  | _ => "stringcraft.format.coerce".toList

end Note

/-- A result or a fault, with the notes made on the way. -/
structure Traced (α : Type) where
  notes : List Note
  result : Except Fault α

namespace Traced

variable {α β : Type}

/-- A result without notes. -/
protected def pure (a : α) : Traced α := ⟨[], .ok a⟩

/-- One computation after another; the second is not made after a fault. -/
protected def bind (x : Traced α) (f : α → Traced β) : Traced β :=
  match x.result with
  | .ok a =>
    let y := f a
    ⟨x.notes ++ y.notes, y.result⟩
  | .error e => ⟨x.notes, .error e⟩

/-- A function of the result; the notes stay. -/
protected def map (f : α → β) (x : Traced α) : Traced β := ⟨x.notes, x.result.map f⟩

instance : Monad Traced where
  map := Traced.map
  pure := Traced.pure
  bind := Traced.bind

/-- A computation that notes nothing. -/
def ofExcept (r : Except Fault α) : Traced α := ⟨[], r⟩

/-- A fault. -/
def fail (e : Fault) : Traced α := ⟨[], .error e⟩

/-- One note. -/
def note (n : Note) : Traced Unit := ⟨[n], .ok ()⟩

/-- The wordings of the notes and the result.  A note that cannot be worded ends the computation
    with the fault of its wording. -/
def report (x : Traced α) : List Text × Except Fault α :=
  worded [] x.notes
where
  /-- The notes after those already worded, latest first. -/
  worded (done : List Text) : List Note → List Text × Except Fault α
    | [] => (done.reverse, x.result)
    | n :: rest =>
      match n.text with
      | .ok t => worded (t :: done) rest
      | .error e => (done.reverse, .error e)

end Traced

end Textwork
