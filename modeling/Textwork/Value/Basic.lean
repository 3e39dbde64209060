/-
  The values that templates and library functions take: texts, numbers of five
  kinds, sequences, tables, patterns and callbacks.

  * `isTrue` says which values count as true;
  * `items?` gives the members of a value that can be walked through;
  * `ofEntries` builds a table, a later entry of an equal key replacing the
    value of the earlier one (`Value.Comparison` has the equality).
-/
import Textwork.Number.Shortest
import Textwork.Number.Decimal
import Textwork.Pattern.Basic

namespace Textwork

/-- Something that can be called.  What it gives depends on what it is called with alone, and it
    changes nothing. -/
structure Callback where
  /-- tells it from all others -/
  id : Nat
  /-- whether what it gives for a character, its index and the whole text counts as true -/
  test : Char → Nat → Text → Except Fault Bool
  /-- the text that it gives for a match in a text -/
  replacement : Text → Pattern.Match → Except Fault Text

/-- A value. -/
inductive Value where
  | nothing
  | bool (b : Bool)
  | int (n : Int)
  | float (x : Binary64)
  | text (t : Text)
  | list (items : List Value)
  | tuple (items : List Value)
  | dict (entries : List (Value × Value))
  | fraction (r : Rat)
  | decimal (d : Decimal)
  | bytes (b : List UInt8)
  /-- a sequence that can be walked through once -/
  | iterator (items : List Value)
  | pattern (p : Pattern)
  | callback (c : Callback)

namespace Value

/-- Whether a value counts as true: numbers other than zero, and sequences and tables that are not
    empty; of the rest, all but `nothing`. -/
def isTrue : Value → Bool
  | nothing => false
  | bool b => b
  | int n => n != 0
  | float (.finite _ m _ _) => m != 0
  | text t => !t.isEmpty
  | list items | tuple items => !items.isEmpty
  | dict entries => !entries.isEmpty
  | fraction r => r.num != 0
  | decimal (.finite _ c _) => c != 0
  | bytes b => !b.isEmpty
  | _ => true

/-- The members of a value: the characters of a text, the items of a sequence, the keys of a table,
    the numbers of bytes. -/
def items? : Value → Option (List Value)
  | text t => some (t.map fun c => text [c])
  | list items | tuple items | iterator items => some items
  | dict entries => some (entries.map Prod.fst)
  | bytes b => some (b.map fun x => int x.toNat)
  | _ => none

/-- The members of a value, which has to have members. -/
def items (v : Value) : Except Fault (List Value) :=
  match v.items? with
  | some vs => .ok vs
  | none => .error .wrongKind

/-- A list of texts as a value. -/
def ofTexts (ts : List Text) : Value := list (ts.map text)

end Value

end Textwork
