/-
  Patterns and what is done with them.

  * `compile?` reads a pattern; `escape` writes a text as a pattern that matches
    just this text;
  * `search?`, `matches` and `matchesWhole` look for matches in a text;
  * `split` gives the parts between the matches and the groups of each match;
  * `substitute` replaces matches by what a function of the match gives.
-/
import Textwork.Pattern.Parser
import Textwork.Pattern.Matcher
import Textwork.Text.Basic

namespace Textwork

/-- A pattern that has been read. -/
structure Pattern where
  source : Text
  flags : Pattern.Flags
  root : Pattern.Node
  groups : Nat
  names : List (Text × Nat)
  deriving DecidableEq, Repr

namespace Pattern

/-! ## Reading -/

/-- The pattern that a text denotes under the given options. -/
def compile? (source : Text) (flags : Flags) : Except Fault Pattern := do
  let (root, p) ← parse? source flags
  .ok ⟨source, p.flags, root, p.opened, p.names⟩

/-- Whether bit `k` of an integer in two's complement is set. -/
def hasBit (n : Int) (k : Nat) : Bool := n / (Nat.pow 2 k : Nat) % 2 == 1

/-- The options that a number stands for: letter case 2, locale 4, lines 8, dot 16, Unicode 32,
    verbose 64, ASCII 256.  The locale cannot be used with texts. -/
def Flags.ofInt? (n : Int) : Except Fault Flags :=
  if hasBit n 2 then .error .flagConflict
  else .ok ⟨hasBit n 1, hasBit n 3, hasBit n 4, hasBit n 6, hasBit n 8, hasBit n 5⟩

/-- The pattern that a text denotes under options given as a number of 32 bits.  A text that cannot
    be read is reported before options that contradict each other, and those before a number that is
    too large. -/
def compileWith? (source : Text) (flags : Int) : Except Fault Pattern :=
  match Flags.ofInt? flags with
  | .ok f => do
    let p ← compile? source f
    if -2147483648 ≤ flags ∧ flags ≤ 2147483647 then .ok p else .error .tooLarge
  | .error e => do
    let _ ← compile? source .plain
    .error e

/-- The characters that mean something in a pattern. -/
def specials : Text := "-[]/{}()*+?.\\^$|".toList

/-- A text written as a pattern, its special characters after backslashes. -/
def escapeText (t : Text) : Text := t.flatMap fun c => if specials.elem c then ['\\', c] else [c]

/-! ## Searching -/

/-- The first match at or after a position of a text. -/
def search? (p : Pattern) (t : Text) (start : Nat) : Option Match :=
  if t.length < start then none
  else searchFrom? p.root p.groups t.toArray false start (t.length - start)

/-- All matches in a text, from left to right. -/
def allMatches (p : Pattern) (t : Text) : List Match :=
  matchesFrom p.root p.groups t.toArray (2 * t.length + 2) false 0

/-- Whether a pattern matches a text as a whole. -/
def matchesWhole (p : Pattern) (t : Text) : Bool :=
  (matchAt? p.root p.groups t.toArray (· == t.length) 0).isSome

/-- The texts of all matches. -/
def found (p : Pattern) (t : Text) : List Text :=
  (p.allMatches t).map fun m => t.between m.start m.stop

/-! ## Splitting and replacing -/

/-- The text of a group of a match, if it took part. -/
def groupText? (t : Text) (m : Match) (i : Nat) : Option Text :=
  (m.group? i).map fun (start, stop) => t.between start stop

/-- The parts of a text from position `i` on between the given matches, each match contributing the
    texts of its groups. -/
def splitAt (groups : Nat) (t : Text) (i : Nat) : List Match → List (Option Text)
  | [] => [some (t.drop i)]
  | m :: rest =>
    some (t.between i m.start) ::
      (((List.range groups).map fun g => groupText? t m (g + 1)) ++ splitAt groups t m.stop rest)

/-- The parts of a text between the matches, and the groups of the matches, `none` for a group that
    took no part. -/
def split (p : Pattern) (t : Text) : List (Option Text) := splitAt p.groups t 0 (p.allMatches t)

/-- A text from position `i` on with the given matches replaced. -/
def substituteAt (t : Text) (f : Match → Except Fault Text) (i : Nat) :
    List Match → Except Fault Text
  | [] => .ok (t.drop i)
  | m :: rest => do
    let replaced ← f m
    let after ← substituteAt t f m.stop rest
    .ok (t.between i m.start ++ replaced ++ after)

/-- A text with all matches, or the first one only, replaced by the values of a function. -/
def substitute (p : Pattern) (t : Text) (onlyFirst : Bool) (f : Match → Except Fault Text) :
    Except Fault Text :=
  substituteAt t f 0 (if onlyFirst then (p.allMatches t).take 1 else p.allMatches t)

end Pattern

end Textwork
