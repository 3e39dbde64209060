/-
  Functions that take positions: extraction, insertion and search of texts.

  Positions are read leniently: numbers are truncated, texts may hold integers,
  and whatever is no number is taken for the default.
-/
import Textwork.Catalogue.Signature
import Textwork.Text.Parts
import Textwork.Text.Search
import Textwork.Value.Numbers

namespace Textwork.Catalogue

/-- A position that may be nothing. -/
def optionalInt (default : Int) : Value → Except Fault (Option Int)
  | .nothing => .ok none
  | v => (v.toIntOr default).map some

/-- A character as a value, empty for none. -/
def charText (c : Option Char) : Value := .text c.toList

/-! ## Extraction -/

/-- The character at a position. -/
def charAt (v position : Value) : Except Fault (Option Char) := do
  let t ← v.toText
  let i ← position.toIntOr 0
  .ok (t.at? i)

/-- The cluster at a position. -/
def graphemeAt (v position : Value) : Except Fault Value := do
  let t ← v.toText
  let i ← position.toIntOr 0
  .ok (.text (if i < 0 then [] else (t.clusters[i.toNat]?).getD []))

/-- Characters at one end of a text; the number is one by default. -/
def atEnd (take : Text → Int → Text) (v length : Value) : Except Fault Value := do
  let t ← v.toText
  let n ← length.toIntOr 1
  .ok (.text (take t n))

/-- The characters between two indexes, which have to be integers or nothing. -/
def slice (v start stop : Value) : Except Fault Value := do
  let t ← v.toText
  let a ← start.toBound
  let b ← stop.toBound
  .ok (.text (t.slice a b))

/-- A number of characters from a position on. -/
def substr (v start length : Value) : Except Fault Value := do
  let t ← v.toText
  let a ← start.toIntOr 0
  let n ← optionalInt 0 length
  .ok (.text (t.substr a n))

/-- The characters between two bounds. -/
def substring (v start stop : Value) : Except Fault Value := do
  let t ← v.toText
  let a ← start.toIntOr 0
  let b ← optionalInt 0 stop
  .ok (.text (t.substring a b))

/-! ## Insertion -/

/-- A text inserted at a position. -/
def insert (v addition position : Value) : Except Fault Value := do
  let t ← v.toText
  let a ← addition.toText
  let i ← optionalInt 0 position
  .ok (.text (t.insert a i))

/-- Characters replaced by a text. -/
def splice (v start count addition : Value) : Except Fault Value := do
  let t ← v.toText
  let a ← start.toIntOr 0
  let n ← optionalInt 0 count
  let s ← addition.toText
  .ok (.text (t.splice a n s))

/-! ## Search -/

/-- The first position of a needle. -/
def indexOf (v needle start : Value) : Except Fault Value := do
  let t ← v.toText
  let i ← start.toIntOr 0
  let n ← needle.toText
  .ok (.int (t.indexOf n i))

/-- The last position of a needle. -/
def lastIndexOf (v needle stop : Value) : Except Fault Value := do
  let t ← v.toText
  let n ← needle.toText
  let i ← optionalInt 0 stop
  .ok (.int (t.lastIndexOf n i))

/-- Whether a needle is found by a test that takes a position. -/
def testAt (test : Text → Text → Int → Bool) (v needle position : Value) : Except Fault Value := do
  let t ← v.toText
  let n ← needle.toText
  let i ← position.toIntOr 0
  .ok (.bool (test t n i))

/-- Whether a text, or its first characters, ends with a needle. -/
def endsWith (v needle position : Value) : Except Fault Value := do
  let t ← v.toText
  let i ← optionalInt 0 position
  let n ← needle.toText
  .ok (.bool (t.endsWith n i))

/-- The number of occurrences of a needle. -/
def countSubstrings (v needle : Value) : Except Fault Value := do
  let n ← needle.toText
  if n.isEmpty then .ok (.int 0)
  else do
    let t ← v.toText
    .ok (.int (Text.occurrences n t))

/-! ## Entries -/

/-- The functions of this module. -/
def positionEntries : List Entry := [
  entry₂ "char_at" (optional "position" (.int 0)) fun v i => (charAt v i).map charText,
  entry₂ "code_point_at" (optional "position" (.int 0)) fun v i => do
    match ← charAt v i with
    | some c => .ok (.int c.toNat)
    | none => .ok .nothing,
  entry₂ "grapheme_at" (optional "position" (.int 0)) graphemeAt,
  entry₂ "first" (optional "length" (.int 1)) (atEnd Text.first),
  entry₂ "last" (optional "length" (.int 1)) (atEnd Text.last),
  entry₃ "slice" (optional "start" (.int 0)) (optional "end" .nothing) slice,
  entry₃ "substr" (optional "start" (.int 0)) (optional "length" .nothing) substr,
  entry₃ "substring" (optional "start" (.int 0)) (optional "end" .nothing) substring,
  entry₃ "insert" (optional "to_insert" (.text [])) (optional "position" .nothing) insert,
  entry₄ "splice" (optional "start" (.int 0)) (optional "delete_count" .nothing)
    (optional "to_add" (.text [])) splice,
  entry₃ "index_of" (optional "search_string" (.text [])) (optional "from_index" (.int 0)) indexOf,
  entry₃ "last_index_of" (optional "search_string" (.text [])) (optional "from_index" .nothing)
    lastIndexOf,
  entry₃ "includes" (optional "search" (.text [])) (optional "position" (.int 0))
    (testAt Text.includes),
  entry₃ "starts_with" (optional "start" (.text [])) (optional "position" (.int 0))
    (testAt Text.startsWith),
  entry₃ "ends_with" (optional "end" (.text [])) (optional "position" .nothing) endsWith,
  entry₂ "count_substrings" (optional "substring" .nothing) countSubstrings]

end Textwork.Catalogue
