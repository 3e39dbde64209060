/-
  Tables of code points.  Every table is a list in increasing order, and every
  search stops at the first entry that starts beyond the code point.

  * `Ranges`: first and last code point;
  * `Progressions`: first code point, last code point and step;
  * `Shifts`: a progression and the image of its first member, each member
    being moved by the same amount;
  * `Expansions`: a code point and the sequence that stands for it.
-/

namespace Textwork.Unicode

/-- Ranges of code points, both ends included. -/
abbrev Ranges := List (Nat × Nat)

/-- Arithmetic progressions of code points: first, last, step. -/
abbrev Progressions := List (Nat × Nat × Nat)

/-- Progressions that a mapping moves: first, last, step, image of the first. -/
abbrev Shifts := List (Nat × Nat × Nat × Nat)

/-- Code points that a mapping turns into several. -/
abbrev Expansions := List (Nat × List Nat)

/-- Whether one of the ranges holds `n`. -/
def Ranges.contains : Ranges → Nat → Bool
  | [], _ => false
  | (first, last) :: rest, n =>
    if n < first then false else if n ≤ last then true else Ranges.contains rest n

/-- Whether one of the progressions holds `n`. -/
def Progressions.contains : Progressions → Nat → Bool
  | [], _ => false
  | (first, last, step) :: rest, n =>
    if n < first then false
    else if n ≤ last && (n - first) % step == 0 then true
    else Progressions.contains rest n

/-- The image of `n`, if one of the progressions holds it. -/
def Shifts.image? : Shifts → Nat → Option Nat
  | [], _ => none
  | (first, last, step, image) :: rest, n =>
    if n < first then none
    else if n ≤ last && (n - first) % step == 0 then some (image + (n - first))
    else Shifts.image? rest n

/-- Every code point whose image is `n`. -/
def Shifts.preimages : Shifts → Nat → List Nat
  | [], _ => []
  | (first, last, step, image) :: rest, n =>
    if image ≤ n && n - image ≤ last - first && (n - image) % step == 0 then
      (first + (n - image)) :: Shifts.preimages rest n
    else Shifts.preimages rest n

/-- The sequence that stands for `n`, if there is one. -/
def Expansions.image? : Expansions → Nat → Option (List Nat)
  | [], _ => none
  | (point, image) :: rest, n =>
    if n < point then none else if n = point then some image else Expansions.image? rest n

end Textwork.Unicode
