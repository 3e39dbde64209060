/-
  Syntax trees of search patterns.

  A tree is built from tests of one character, anchors, sequences, choices,
  numbered groups, repetitions, back references and looks ahead or behind.  The
  options in force (letter case, ASCII classes, line mode) are part of the node
  they apply to, so that a tree says by itself what it matches.
-/
import Textwork.Unicode.Letter
import Textwork.Unicode.LetterCase
import Textwork.Number.Numeral

namespace Textwork.Pattern

/-! ## Options -/

/-- The options of a pattern. -/
structure Flags where
  ignoreCase : Bool
  multiline : Bool
  dotAll : Bool
  verbose : Bool
  ascii : Bool
  unicode : Bool
  deriving DecidableEq, Repr

/-- No options. -/
def Flags.plain : Flags := ⟨false, false, false, false, false, false⟩

/-- How letter case counts. -/
inductive Folding where
  | exact
  | unicode
  | ascii
  deriving DecidableEq, Repr

/-- The way in which letter case counts under the given options. -/
def Flags.folding (f : Flags) : Folding :=
  if !f.ignoreCase then .exact else if f.ascii then .ascii else .unicode

/-- Equality of two characters. -/
def Folding.same : Folding → Char → Char → Bool
  | .exact, a, b => a == b
  | .unicode, a, b => Unicode.sameFolded a b
  | .ascii, a, b => a.toLower == b.toLower

/-- Equality of a character of the text with one of an earlier group. -/
def Folding.sameReferred : Folding → Char → Char → Bool
  | .unicode, a, b => Unicode.simpleLower a == Unicode.simpleLower b
  | f, a, b => f.same a b

/-- The characters that equal `c`. -/
def Folding.variants : Folding → Char → List Char
  | .exact, c => [c]
  | .unicode, c => Unicode.foldedVariants c
  | .ascii, c => [c.toLower, c.toUpper]

/-! ## Tests of one character -/

/-- The named classes of characters. -/
inductive Category where
  | digit
  | blank
  | word
  deriving DecidableEq, Repr

/-- Whether a character belongs to a named class, taken in ASCII alone or in all of Unicode. -/
def Category.holds (ascii : Bool) (c : Char) : Category → Bool
  | digit => if ascii then c.isDigit else Unicode.isDecimal c
  | blank => if ascii then Numeral.isAsciiBlank c else Unicode.isBlank c
  | word => if ascii then c.isAlphanum || c == '_' else Unicode.isWordChar c

/-- A member of a set of characters. -/
inductive Member where
  | range (low high : Char)
  | category (negated : Bool) (k : Category)
  deriving DecidableEq, Repr

/-- Whether a member holds a character. -/
def Member.holds (folding : Folding) (ascii : Bool) (c : Char) : Member → Bool
  | range low high => (folding.variants c).any fun v => low ≤ v && v ≤ high
  | category negated k => k.holds ascii c != negated

/-- A test of one character. -/
inductive Test where
  | literal (folding : Folding) (c : Char)
  | any (acrossLines : Bool)
  | oneOf (folding : Folding) (ascii negated : Bool) (members : List Member)
  deriving DecidableEq, Repr

/-- Whether a character passes a test. -/
def Test.holds (c : Char) : Test → Bool
  | literal folding x => folding.same c x
  | any acrossLines => acrossLines || c != '\n'
  | oneOf folding ascii negated members => (members.any (·.holds folding ascii c)) != negated

/-! ## Trees -/

/-- A condition on a position. -/
inductive Anchor where
  | textStart
  | lineStart
  | textEnd
  | lineEnd
  /-- at the end of the text or before a line feed that ends it -/
  | lastLineEnd
  | wordEdge (ascii negated : Bool)
  deriving DecidableEq, Repr

/-- The tree of a pattern. -/
inductive Node where
  | empty
  | single (t : Test)
  | anchor (a : Anchor)
  | seq (a b : Node)
  | alt (a b : Node)
  | group (index : Nat) (body : Node)
  /-- repetition of one character: at least `min`, at most `max` times, as often as possible if
      `greedy` -/
  | span (t : Test) (min : Nat) (max : Option Nat) (greedy : Bool)
  /-- repetition of anything else -/
  | loop (body : Node) (min : Nat) (max : Option Nat) (greedy : Bool)
  | backreference (folding : Folding) (index : Nat)
  /-- what follows, or what comes `back` characters before, matches, or does not if `negated` -/
  | look (back : Option Nat) (negated : Bool) (body : Node)
  deriving DecidableEq, Repr

namespace Node

/-- Nodes one after the other. -/
def ofList : List Node → Node
  | [] => empty
  | [n] => n
  | n :: rest => seq n (ofList rest)

/-- A repetition of a node. -/
def repeated (min : Nat) (max : Option Nat) (greedy : Bool) : Node → Node
  | single t => span t min max greedy
  | n => loop n min max greedy

/-- The least and the greatest number of characters that a match takes, `none` for no bound. -/
abbrev Width := Nat × Option Nat

/-- The sum of two upper bounds. -/
def addBound (a b : Option Nat) : Option Nat := a.bind fun x => b.map (x + ·)

/-- The width of a node, the widths of closed groups being given. -/
def width (closed : List (Nat × Width)) : Node → Width
  | empty | anchor _ | look _ _ _ => (0, some 0)
  | single _ => (1, some 1)
  | seq a b =>
    let (la, ha) := a.width closed
    let (lb, hb) := b.width closed
    (la + lb, addBound ha hb)
  | alt a b =>
    let (la, ha) := a.width closed
    let (lb, hb) := b.width closed
    (min la lb, ha.bind fun x => hb.map (max x ·))
  | group _ body => body.width closed
  | span _ least most _ => (least, most)
  | loop body least most _ =>
    let (l, h) := body.width closed
    (l * least, if h = some 0 then some 0 else h.bind fun x => most.map (x * ·))
  | backreference _ i => (closed.lookup i).getD (0, none)

end Node

end Textwork.Pattern
