/-
  Texts: sequences of code points.  Positions, lengths and cuts count code
  points everywhere in the library.

  * `join` puts texts behind each other, `trimStart` and its kin drop characters
    at the ends;
  * `slice` takes the characters between two indexes, negative ones counting
    from the end; `substr` takes a number of them, `substring` those between two
    bounds in either order, `first` and `last` those at one end;
  * `insert` and `splice` put a text at a position.

  Positions are integers of any size: those outside the text are moved to its
  nearest end.
-/

namespace Textwork

/-- A text is the list of its characters. -/
abbrev Text := List Char

namespace Text

/-- The characters of a string. -/
def ofString (s : String) : Text := s.toList

/-- The string with the given characters. -/
def toString (t : Text) : String := String.ofList t

/-- The texts one after the other, with `separator` between neighbours. -/
def join (separator : Text) : List Text → Text
  | [] => []
  | [t] => t
  | t :: rest => t ++ separator ++ join separator rest

/-- The text without the characters of class `p` at its start. -/
def trimStart (p : Char → Bool) (t : Text) : Text := t.dropWhile p

/-- The text without the characters of class `p` at its end. -/
def trimEnd (p : Char → Bool) (t : Text) : Text := (t.reverse.dropWhile p).reverse

/-- The text without the characters of class `p` at its two ends. -/
def trimBoth (p : Char → Bool) (t : Text) : Text := trimEnd p (trimStart p t)

/-- The ASCII letters of a text in lower case, all else unchanged. -/
def asciiLower (t : Text) : Text := t.map Char.toLower

/-! ## Positions -/

/-- The position that an index denotes in a text of `size` characters; a negative index counts
    from the end. -/
def position (size : Nat) (i : Int) : Nat :=
  if i < 0 then (size + i).toNat else min i.toNat size

/-- The position that a bound denotes in a text of `size` characters; a negative bound is zero. -/
def bound (size : Nat) (i : Int) : Nat := min i.toNat size

/-- The characters from position `start` up to position `stop`. -/
def between (t : Text) (start stop : Nat) : Text := (t.take stop).drop start

/-! ## Extraction -/

/-- The character at a position. -/
def at? (t : Text) (i : Int) : Option Char := if i < 0 then none else t[i.toNat]?

/-- The first `n` characters. -/
def first (t : Text) (n : Int) : Text := t.take n.toNat

/-- The last `n` characters. -/
def last (t : Text) (n : Int) : Text := t.drop (t.length - n.toNat)

/-- The characters between two indexes; an absent one is the end of the text on its side. -/
def slice (t : Text) (start stop : Option Int) : Text :=
  t.between ((start.map (position t.length)).getD 0) ((stop.map (position t.length)).getD t.length)

/-- `length` characters from `start` on, or all of them. -/
def substr (t : Text) (start : Int) (length : Option Int) : Text :=
  let rest := t.drop (position t.length start)
  match length with
  | none => rest
  | some n => rest.take n.toNat

/-- The characters between two bounds in either order. -/
def substring (t : Text) (start : Int) (stop : Option Int) : Text :=
  let a := bound t.length start
  let b := (stop.map (bound t.length)).getD t.length
  t.between (min a b) (max a b)

/-! ## Insertion -/

/-- The text with `addition` at a position; a position outside the text changes nothing. -/
def insert (t addition : Text) (i : Option Int) : Text :=
  let k := i.getD t.length
  if k < 0 ∨ (t.length : Int) < k then t else t.take k.toNat ++ addition ++ t.drop k.toNat

/-- The text with `count` characters from `start` on, or all that follow, replaced. -/
def splice (t : Text) (start : Int) (count : Option Int) (addition : Text) : Text :=
  let a := position t.length start
  let removed := match count with
    | none => t.length - a
    | some n => min n.toNat (t.length - a)
  t.take a ++ addition ++ t.drop (a + removed)

end Text

end Textwork
