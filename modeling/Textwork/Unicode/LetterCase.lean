/-
  Letter case of single characters: the full mappings, the simple lower case
  form used where case is ignored, and the case properties.

  * `lowerOf` and `upperOf` give the full mapping, up to three characters long;
    neither looks at the neighbours of the character.
  * `caseOrbit` gives the lower case letters that share their upper case form,
    such as `s` and the long `ſ`.
  * `sameFolded` is equality when case is ignored: equal lower case forms, or
    lower case forms of one orbit.
-/
import Textwork.Unicode.CaseTable

namespace Textwork.Unicode

/-! ## Properties -/

/-- The property `Lowercase`. -/
def isLowercase (c : Char) : Bool := lowercases.contains c.toNat

/-- The property `Uppercase`. -/
def isUppercase (c : Char) : Bool := uppercases.contains c.toNat

/-- Looked through by the final sigma rule. -/
def isCaseIgnorable (c : Char) : Bool := caseIgnorables.contains c.toNat

/-- Cased, and not looked through by the final sigma rule. -/
def isCased (c : Char) : Bool := caseds.contains c.toNat

/-! ## Mappings -/

/-- The image of a character under a mapping given by its two tables. -/
def mapCase (expansions : Expansions) (shifts : Shifts) (c : Char) : List Char :=
  match shifts.image? c.toNat with
  | some n => [Char.ofNat n]
  | none =>
    match expansions.image? c.toNat with
    | some ns => ns.map Char.ofNat
    | none => [c]

/-- The lower case form of a character on its own. -/
def lowerOf (c : Char) : List Char := mapCase lowerExpansions lowerShifts c

/-- The upper case form of a character. -/
def upperOf (c : Char) : List Char := mapCase upperExpansions upperShifts c

/-- The first character of the lower case form. -/
def simpleLower (c : Char) : Char := (lowerOf c).headD c

/-! ## Ignoring case -/

/-- The orbits of two or more letters. -/
def caseOrbits : List (List Nat) := [
  [0x69, 0x131], [0x73, 0x17F], [0xB5, 0x3BC], [0x345, 0x3B9, 0x1FBE], [0x390, 0x1FD3],
  [0x3B0, 0x1FE3], [0x3B2, 0x3D0], [0x3B5, 0x3F5], [0x3B8, 0x3D1], [0x3BA, 0x3F0],
  [0x3C0, 0x3D6], [0x3C1, 0x3F1], [0x3C2, 0x3C3], [0x3C6, 0x3D5], [0x432, 0x1C80],
  [0x434, 0x1C81], [0x43E, 0x1C82], [0x441, 0x1C83], [0x442, 0x1C84, 0x1C85], [0x44A, 0x1C86],
  [0x463, 0x1C87], [0x1C88, 0xA64B], [0x1E61, 0x1E9B], [0xFB05, 0xFB06]]

/-- The letters that share their upper case form with `n`, itself included, if there are others. -/
def caseOrbit (n : Nat) : List Nat := (caseOrbits.find? (·.elem n)).getD []

/-- The lower case letters that count as equal to the lower case letter `c`. -/
def foldClass (c : Char) : List Char := c :: (caseOrbit c.toNat).map Char.ofNat

/-- Equality of characters when case is ignored. -/
def sameFolded (a b : Char) : Bool := (foldClass (simpleLower a)).elem (simpleLower b)

/-- Every character that equals `c` when case is ignored. -/
def foldedVariants (c : Char) : List Char :=
  (foldClass (simpleLower c)).flatMap fun l =>
    (if simpleLower l == l then [l] else []) ++ (lowerShifts.preimages l.toNat).map Char.ofNat

end Textwork.Unicode
