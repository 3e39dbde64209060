/-
  Equality and order of values.

  Numbers of all kinds compare by their exact value, texts and sequences member
  by member.  Values of different kinds are unequal and have no order.
-/
import Textwork.Value.Basic

namespace Textwork

/-- The value of a number, infinities and NaN included. -/
inductive Quantity where
  | finite (r : Rat)
  | infinite (negative : Bool)
  | nan

namespace Quantity

/-- Equality of numbers; a NaN equals nothing. -/
def same : Quantity → Quantity → Bool
  | finite a, finite b => a == b
  | infinite a, infinite b => a == b
  | _, _ => false

/-- The strict order of numbers; a NaN is less than nothing. -/
def less : Quantity → Quantity → Bool
  | finite a, finite b => a < b
  | infinite a, infinite b => a && !b
  | infinite a, finite _ => a
  | finite _, infinite b => !b
  | _, _ => false

/-- No number. -/
def isNan : Quantity → Bool
  | nan => true
  | _ => false

end Quantity

namespace Value

/-- The value of a number; nothing for other values. -/
def quantity? : Value → Option Quantity
  | bool b => some (.finite (if b then 1 else 0))
  | int n => some (.finite n)
  | fraction r => some (.finite r)
  | float (.infinite negative) => some (.infinite negative)
  | float x => some ((x.toRat?.map .finite).getD .nan)
  | decimal (.infinite negative) => some (.infinite negative)
  | decimal d => some ((d.toRat?.map .finite).getD .nan)
  | _ => none

/-- A decimal number. -/
def isDecimal : Value → Bool
  | decimal _ => true
  | _ => false

mutual

/-- Equality of values. -/
def same : Value → Value → Bool
  | nothing, nothing => true
  | text a, text b => a == b
  | bytes a, bytes b => a == b
  | list a, list b => sameAll a b
  | tuple a, tuple b => sameAll a b
  | dict a, dict b => a.length == b.length && sameEntries a b
  | pattern a, pattern b => a == b
  | callback a, callback b => a.id == b.id
  | a, b =>
    match a.quantity?, b.quantity? with
    | some x, some y => x.same y
    | _, _ => false

/-- Equality of lists of values. -/
def sameAll : List Value → List Value → Bool
  | [], [] => true
  | a :: as, b :: bs => same a b && sameAll as bs
  | _, _ => false

/-- Whether each of the entries has an equal one among those of `other`. -/
def sameEntries : List (Value × Value) → List (Value × Value) → Bool
  | [], _ => true
  | (k, v) :: rest, other =>
    other.any (fun (k', v') => same k k' && same v v') && sameEntries rest other

end

/-- The first byte string is less, by bytes. -/
def bytesLess : List UInt8 → List UInt8 → Bool
  | [], b => !b.isEmpty
  | _, [] => false
  | a :: as, b :: bs => a < b || (a == b && bytesLess as bs)

/-- The first text is less, by code points. -/
def textLess : Text → Text → Bool
  | [], b => !b.isEmpty
  | _, [] => false
  | a :: as, b :: bs => a < b || (a == b && textLess as bs)

mutual

/-- The strict order of values. -/
def less : Value → Value → Except Fault Bool
  | text a, text b => .ok (textLess a b)
  | bytes a, bytes b => .ok (bytesLess a b)
  | list a, list b => lessAll a b
  | tuple a, tuple b => lessAll a b
  | a, b =>
    match a.quantity?, b.quantity? with
    | some x, some y =>
      if (a.isDecimal || b.isDecimal) && (x.isNan || y.isNan) then .error .unordered
      else .ok (x.less y)
    | _, _ => .error .wrongKind

/-- The strict order of lists: that of the first members that differ, or of the lengths. -/
def lessAll : List Value → List Value → Except Fault Bool
  | [], bs => .ok !bs.isEmpty
  | _, [] => .ok false
  | a :: as, b :: bs => if same a b then lessAll as bs else less a b

end

/-- A table with the given entries in order; a later entry of an equal key replaces the value of the
    earlier one. -/
def ofEntries (entries : List (Value × Value)) : Value :=
  dict (entries.foldl (fun table (k, v) =>
    if table.any (fun (k', _) => same k' k) then
      table.map fun (k', v') => (k', if same k' k then v else v')
    else table ++ [(k, v)]) [])

end Value

end Textwork
