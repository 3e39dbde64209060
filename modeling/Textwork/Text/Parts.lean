/-
  The parts of a text: clusters and words.

  A cluster is what a reader takes for one character: a character followed by
  marks, variation selectors, skin tones and zero width joiners; after a joiner
  any character belongs to the cluster.  A line feed joins a cluster that is a
  carriage return alone.

  Words are the runs of letters and digits of a text, split where a word begins
  inside a run: where digits meet other characters, where an upper case letter
  follows a lower case one, and at the last of several upper case letters if a
  lower case one follows it.
-/
import Textwork.Text.Basic
import Textwork.Unicode.Mark
import Textwork.Unicode.Letter
import Textwork.Unicode.LetterCase

namespace Textwork.Text

/-! ## Clusters -/

/-- The zero width joiner. -/
def joiner : Char := '\u200d'

/-- A mark, a variation selector or a skin tone. -/
def isExtending (c : Char) : Bool :=
  Unicode.isMark c || (0xFE00 ≤ c.toNat && c.toNat ≤ 0xFE0F) ||
    (0x1F3FB ≤ c.toNat && c.toNat ≤ 0x1F3FF)

/-- Whether `c` belongs to the cluster whose characters so far are `cluster`, the last of them being
    a joiner if `joined`. -/
def staysIn (cluster : Text) (joined : Bool) (c : Char) : Bool :=
  joined || c == joiner || isExtending c || (cluster == ['\r'] && c == '\n')

/-- The clusters of a text after the characters `cluster` of an open one. -/
def clustersFrom (cluster : Text) (joined : Bool) : Text → List Text
  | [] => [cluster]
  | c :: rest =>
    if staysIn cluster joined c then clustersFrom (cluster ++ [c]) (c == joiner) rest
    else cluster :: clustersFrom [c] (c == joiner) rest

/-- The clusters of a text. -/
def clusters : Text → List Text
  | [] => []
  | c :: rest => clustersFrom [c] (c == joiner) rest

/-- The clusters in reverse order. -/
def reverseClusters (t : Text) : Text := t.clusters.reverse.flatten

/-! ## Words -/

/-- `c` put at the start of the first text, or alone if there is none. -/
def consFirst (c : Char) : List Text → List Text
  | [] => [[c]]
  | t :: rest => (c :: t) :: rest

/-- The maximal runs of characters of class `p`. -/
def runs (p : Char → Bool) : Text → List Text
  | [] => []
  | [c] => if p c then [[c]] else []
  | c :: d :: rest =>
    if p c then
      if p d then consFirst c (runs p (d :: rest)) else [c] :: runs p (d :: rest)
    else runs p (d :: rest)

/-- Whether a word begins at `current`, which stands between `previous` and `following`. -/
def beginsWord (previous current : Char) (following : Option Char) : Bool :=
  Unicode.isDigit previous != Unicode.isDigit current ||
    (Unicode.isLowercase previous && Unicode.isUppercase current) ||
    (Unicode.isUppercase previous && Unicode.isUppercase current &&
      following.any Unicode.isLowercase)

/-- A run split where words begin. -/
def splitRun : Text → List Text
  | [] => []
  | [c] => [[c]]
  | a :: b :: rest =>
    if beginsWord a b rest.head? then [a] :: splitRun (b :: rest)
    else consFirst a (splitRun (b :: rest))

/-- The words of a text. -/
def words (t : Text) : List Text := (t.runs Unicode.isAlphanumeric).flatMap splitRun

end Textwork.Text
