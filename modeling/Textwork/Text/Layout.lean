/-
  Texts brought to a length: padding by a repeated pattern, cutting with a
  marker, and lines of bounded width.

  * `fill` is the pattern over and over, cut to a length;
  * `padLeft`, `padRight` and `padBoth` put the missing fill beside a text, each
    side starting the pattern anew, an odd character going to the right;
  * `checkCopies` refuses copies that cannot be addressed, `checkFill` a fill
    cut from such copies or beside too much else;
  * `truncate` cuts anywhere, `prune` after the last word that fits;
  * `wrapLines` breaks a text at spaces into lines of at most `width`
    characters.  A word that is longer stays whole, or is broken at the width if
    `cut` is set.  The space at which a line breaks belongs to no line, nor do
    spaces at the start of the text that is left when that text is still too
    long.  A line is `broken` if it was ended by a break and not by the end of
    the text.
-/
import Textwork.Fault
import Textwork.Text.Search
import Textwork.Unicode.Letter

namespace Textwork.Text

/-! ## Padding -/

/-- The pattern over and over, cut to `n` characters.  An empty pattern fills nothing. -/
def fill (pattern : Text) (n : Nat) : Text :=
  if pattern.isEmpty then []
  else (List.replicate (n / pattern.length + 1) pattern).flatten.take n

/-- The number of characters that a text lacks to a length. -/
def missing (t : Text) (target : Int) : Nat := (target - t.length).toNat

/-- The text with fill before it. -/
def padLeft (t : Text) (target : Int) (pattern : Text) : Text :=
  fill pattern (t.missing target) ++ t

/-- The text with fill after it. -/
def padRight (t : Text) (target : Int) (pattern : Text) : Text :=
  t ++ fill pattern (t.missing target)

/-- The text with fill on both sides. -/
def padBoth (t : Text) (target : Int) (pattern : Text) : Text :=
  let n := t.missing target
  fill pattern (n / 2) ++ t ++ fill pattern (n - n / 2)

/-- The text `n` times. -/
def times (t : Text) (n : Nat) : Text := (List.replicate n t).flatten

/-! ## Sizes

Nothing is longer than can be addressed, which is checked where a number asks for a length.  What can
be addressed is assumed to fit in memory, and so is all that is only as long as the texts it is made
of. -/

/-- The greatest length that can be addressed. -/
def maxLength : Nat := Nat.pow 2 63 - 1

/-- Refuses a length that cannot be addressed. -/
def checkLength (n : Nat) : Except Fault Unit :=
  if maxLength < n then .error .tooLarge else .ok ()

/-- Refuses `count` copies of something of a length if their number or their length cannot be
    addressed. -/
def checkCopies (length count : Nat) : Except Fault Unit :=
  if maxLength < count ∨ maxLength < length * count then .error .tooLarge else .ok ()

/-- Refuses a fill of `n` characters beside `kept` others if the copies of the pattern that it is cut
    from, or the characters together, cannot be addressed. -/
def checkFill (pattern : Text) (n kept : Nat) : Except Fault Unit :=
  if pattern.isEmpty || n = 0 then .ok ()
  else do
    checkCopies pattern.length (n / pattern.length + 1)
    checkLength (n + kept)

/-! ## Cutting -/

/-- The length that a limit allows: absent, that of the text; negative, zero. -/
def limitOf (t : Text) (limit : Option Int) : Nat := (limit.map Int.toNat).getD t.length

/-- The text cut so that it fits the limit with the marker at its end. -/
def truncate (t : Text) (limit : Option Int) (marker : Text) : Text :=
  let n := t.limitOf limit
  if t.length ≤ n then t else t.take (n - marker.length) ++ marker

/-- The positions at which a run of word characters ends; `i` characters came before, the last of
    them a word character if `inWord`. -/
def wordEndsFrom (i : Nat) (inWord : Bool) : Text → List Nat
  | [] => if inWord then [i] else []
  | c :: rest =>
    if Unicode.isWordChar c then wordEndsFrom (i + 1) true rest
    else if inWord then i :: wordEndsFrom (i + 1) false rest
    else wordEndsFrom (i + 1) false rest

/-- The positions at which a run of word characters ends, in increasing order. -/
def wordEnds (t : Text) : List Nat := wordEndsFrom 0 false t

/-- The text cut after the last word that leaves room for the marker. -/
def prune (t : Text) (limit : Option Int) (marker : Text) : Text :=
  let n := t.limitOf limit
  if t.length ≤ n then t
  else
    let fitting := t.wordEnds.filter fun e => e + marker.length ≤ n
    t.take (fitting.getLastD 0) ++ marker

/-! ## Wrapping -/

/-- A line and whether a break follows it. -/
structure Line where
  body : Text
  broken : Bool
  deriving DecidableEq, Repr

/-- The lines of a text. -/
def wrapLines (width : Nat) (positive : 0 < width) (cut : Bool) (t : Text) : List Line :=
  if t.length ≤ width then (if t.isEmpty then [] else [⟨t, false⟩])
  else
    match t with
    | [] => []
    | c :: rest =>
      if c = ' ' then wrapLines width positive cut rest
      else
        match findLast? [' '] ((c :: rest).take (width + 1)) with
        | some k => ⟨(c :: rest).take k, true⟩ :: wrapLines width positive cut (rest.drop k)
        | none =>
          if cut then
            ⟨(c :: rest).take width, true⟩ :: wrapLines width positive cut (rest.drop (width - 1))
          else
            match cut? [' '] (c :: rest) with
            | none => [⟨c :: rest, false⟩]
            | some (before, _) =>
              ⟨before, true⟩ :: wrapLines width positive cut (rest.drop before.length)
termination_by t.length
decreasing_by all_goals simp only [List.length_cons, List.length_drop]; omega

/-- The text of a line: the indent, the body, and the separator if a break follows. -/
def Line.text (separator indent : Text) (l : Line) : Text :=
  indent ++ l.body ++ (if l.broken then separator else [])

/-- The text in lines of at most `width` characters, each after `indent`, with `separator` at each
    break.  An empty text and a width that is not positive give the indent alone. -/
def wrap (t : Text) (width : Int) (separator indent : Text) (cut : Bool) : Text :=
  if h : 0 < width.toNat then
    if t.isEmpty then indent
    else (wrapLines width.toNat h cut t).flatMap (Line.text separator indent)
  else indent

end Textwork.Text
