/-
  The shortest decimal text of a floating point number.

  * `Interval` is the range of reals that round to a number: up to half a unit
    of the last bit on each side, the ends included iff the significand is even;
  * `digits` looks at the decimal grids of one, two, … digits and takes the
    first on which a neighbour of the number lies in that range: of two such
    neighbours the nearer, of two equally near the even one;
  * `Binary64.text` writes these digits, with an exponent below `10 ^ -4` and
    from `10 ^ 16` on.
-/
import Textwork.Number.Binary64

namespace Textwork

namespace Shortest

/-- The reals that round to one number, in quarters of the unit `2 ^ exponent`. -/
structure Interval where
  low : Nat
  middle : Nat
  high : Nat
  closed : Bool
  exponent : Int

/-- The interval of a positive finite number.  Below a power of two the numbers lie twice as
    dense, so that the lower end is only a quarter of a unit away. -/
def Interval.of (significand : Nat) (exponent : Int) : Interval where
  low := 4 * significand - (if significand = Nat.pow 2 52 ∧ -1074 < exponent then 1 else 2)
  middle := 4 * significand
  high := 4 * significand + 2
  closed := significand % 2 = 0
  exponent := exponent - 2

/-- `d * 10 ^ k` in quarters of the unit, as numerator and denominator. -/
def Interval.locate (i : Interval) (d : Nat) (k : Int) : Nat × Nat :=
  let (n, m) := Rounding.scale 10 k d 1
  Rounding.scale 2 (-i.exponent) n m

/-- Whether `d * 10 ^ k` lies in the interval. -/
def Interval.holds (i : Interval) (d : Nat) (k : Int) : Bool :=
  let (n, m) := i.locate d k
  if i.closed then i.low * m ≤ n && n ≤ i.high * m else i.low * m < n && n < i.high * m

/-- The neighbour of the number on the grid of the multiples of `10 ^ k` that lies in the interval;
    `d` is the lower neighbour. -/
def Interval.pick? (i : Interval) (d : Nat) (k : Int) : Option Nat :=
  match i.holds d k, i.holds (d + 1) k with
  | true, true =>
    let (n, m) := i.locate (2 * d + 1) k
    let twice := 2 * i.middle * m
    if twice < n then some d
    else if twice = n then some (if d % 2 = 0 then d else d + 1)
    else some (d + 1)
  | true, false => some d
  | false, true => some (d + 1)
  | false, false => none

/-- The first grid with a hit: the grids of `count` digits and more, `room` of them, for a number
    `num / den` whose leading digit has the exponent `top`. -/
def Interval.search (i : Interval) (num den : Nat) (top : Int) (count : Nat) : Nat → Nat × Int
  | 0 => (num / den, 0)
  | room + 1 =>
    let k := top + 1 - count
    let (n, m) := Rounding.scale 10 (-k) num den
    match i.pick? (n / m) k with
    | some d => (d, k)
    | none => i.search num den top (count + 1) room

/-- The shortest decimal `d * 10 ^ k` that rounds to a positive finite number. -/
def digits (significand : Nat) (exponent : Int) : Nat × Int :=
  let (num, den) := Binary64.magnitude significand exponent
  (Interval.of significand exponent).search num den (Rounding.decimalExponent num den) 1 17

/-- `d * 10 ^ k` with `10 ^ 16` and `10 ^ -4` as the bounds of positional notation. -/
def write (d : Nat) (k : Int) : Text :=
  let all := Numeral.ofNat d
  let kept := Text.trimEnd (· == '0') all
  let point := k + all.length
  if -4 < point ∧ point ≤ 16 then
    let places := point.toNat
    if point ≤ 0 then '0' :: '.' :: (List.replicate (-point).toNat '0' ++ kept)
    else if kept.length ≤ places then
      kept ++ List.replicate (places - kept.length) '0' ++ ['.', '0']
    else kept.take places ++ '.' :: kept.drop places
  else
    let mantissa := match kept with
      | c :: rest => if rest.isEmpty then [c] else c :: '.' :: rest
      | [] => []
    let e := point - 1
    let size := Numeral.ofNat e.natAbs
    mantissa ++ 'e' :: (if e < 0 then '-' else '+') ::
      (if size.length < 2 then '0' :: size else size)

end Shortest

/-- The shortest text that reads back as the number. -/
def Binary64.text : Binary64 → Text
  | finite negative m q _ =>
    let body := if m = 0 then ['0', '.', '0'] else
      let (d, k) := Shortest.digits m q
      Shortest.write d k
    if negative then '-' :: body else body
  | infinite negative => if negative then "-inf".toList else "inf".toList
  | nan => "nan".toList

end Textwork
