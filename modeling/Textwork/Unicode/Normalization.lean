/-
  Unicode normalization by compatibility: full decomposition, canonical order of
  marks, and canonical composition.

  * `decompose` writes every character as its full decomposition;
  * `reorder` sorts each run of marks by combining class, equal classes keeping
    their order;
  * `nfkd` is the first followed by the second, `nfkc` composes its result.
-/
import Textwork.Unicode.Mark
import Textwork.Unicode.Decomposition
import Textwork.Unicode.Composition

namespace Textwork.Unicode

/-! ## Hangul -/

/-- The first syllable of the Hangul block. -/
def hangulBase : Nat := 0xAC00

/-- The two or three conjoining letters of a Hangul syllable. -/
def hangulLetters? (n : Nat) : Option (List Nat) :=
  if hangulBase ≤ n ∧ n < hangulBase + 11172 then
    let i := n - hangulBase
    let lead := 0x1100 + i / 588
    let vowel := 0x1161 + i % 588 / 28
    let tail := i % 28
    some (if tail = 0 then [lead, vowel] else [lead, vowel, 0x11A7 + tail])
  else none

/-- The syllable of a leading and a vowel letter, or of an open syllable and a trailing letter. -/
def hangulSyllable? (a b : Nat) : Option Nat :=
  if 0x1100 ≤ a ∧ a < 0x1113 ∧ 0x1161 ≤ b ∧ b < 0x1176 then
    some (hangulBase + ((a - 0x1100) * 21 + (b - 0x1161)) * 28)
  else if hangulBase ≤ a ∧ a < hangulBase + 11172 ∧ (a - hangulBase) % 28 = 0 ∧
      0x11A7 < b ∧ b < 0x11C3 then
    some (a + (b - 0x11A7))
  else none

/-! ## Decomposition -/

/-- The full decomposition of a character. -/
def decomposeChar (c : Char) : List Char :=
  let n := c.toNat
  match hangulLetters? n with
  | some ns => ns.map Char.ofNat
  | none =>
    match compatibilityDecomposition? n with
    | some ns => ns.map Char.ofNat
    | none => [c]

/-- Every character written as its full decomposition. -/
def decompose (t : List Char) : List Char := t.flatMap decomposeChar

/-! ## Order of marks -/

/-- A mark put among marks sorted by class, after those of its own class or a lower one. -/
def insertMark (m : Char) : List Char → List Char
  | [] => [m]
  | x :: rest =>
    if combiningClass x ≤ combiningClass m then x :: insertMark m rest else m :: x :: rest

/-- Runs of marks sorted by class; `marks` is the sorted run before the rest of the text. -/
def reorderFrom (marks : List Char) : List Char → List Char
  | [] => marks
  | c :: rest =>
    if combiningClass c = 0 then marks ++ c :: reorderFrom [] rest
    else reorderFrom (insertMark c marks) rest

/-- Each run of marks sorted by combining class. -/
def reorder (t : List Char) : List Char := reorderFrom [] t

/-- Normalization form KD. -/
def nfkd (t : List Char) : List Char := reorder (decompose t)

/-! ## Composition -/

/-- The character that composes two. -/
def composite? (a b : Char) : Option Char :=
  match hangulSyllable? a.toNat b.toNat with
  | some n => some (Char.ofNat n)
  | none => (primaryComposite? a.toNat b.toNat).map Char.ofNat

/-- Composition after the starter `starter`: `held` are the characters kept behind it, latest
    first, and `blocked` is the class of the last of them (zero: none). -/
def composeFrom (starter : Char) (held : List Char) (blocked : Nat) : List Char → List Char
  | [] => starter :: held.reverse
  | c :: rest =>
    let k := combiningClass c
    let free := held.isEmpty || (blocked < k && blocked != 0)
    match (if free then composite? starter c else none) with
    | some joined => composeFrom joined held blocked rest
    | none =>
      if k = 0 then starter :: held.reverse ++ composeFrom c [] 0 rest
      else composeFrom starter (c :: held) k rest

/-- Canonical composition of a text in canonical order. -/
def compose : List Char → List Char
  | [] => []
  | c :: rest =>
    if combiningClass c = 0 then composeFrom c [] 0 rest else c :: compose rest

/-- Normalization form KC. -/
def nfkc (t : List Char) : List Char := compose (nfkd t)

end Textwork.Unicode
