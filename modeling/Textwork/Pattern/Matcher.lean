/-
  Matching by trial in order of preference.

  `Node.run` matches a tree at a position and hands the state after it to a
  continuation; the first way in which the continuation succeeds is the answer.
  A choice tries its first branch first, a greedy repetition the most rounds
  first, a lazy one the fewest.  A repetition does not go round once more from
  the position at which its last round began.

  * `matchAt?` matches at a position, `search?` at the first possible one;
  * `matchesWhole` asks for a match of the whole text;
  * `matches` are the matches from left to right: each starts where the last one
    ended, and an empty one may not follow an empty one at the same place.
-/
import Textwork.Pattern.Syntax

namespace Textwork.Pattern

/-- The place reached in a text, and the groups: the bounds of group `i` at place `i - 1`. -/
structure Place where
  position : Nat
  groups : List (Option (Nat × Nat))
  deriving DecidableEq, Repr

/-- The bounds of a group that has taken part in the match. -/
def Place.group? (p : Place) (i : Nat) : Option (Nat × Nat) := (p.groups[i - 1]?).join

/-- The place after group `i`, which began at `start`, has been closed. -/
def Place.setGroup (p : Place) (i start : Nat) : Place :=
  { p with groups := p.groups.set (i - 1) (some (start, p.position)) }

/-- What to do after a match: the place at the end, or nothing. -/
abbrev Continuation := Place → Option Place

/-! ## Conditions -/

/-- Whether the character at a position is a word character. -/
def isWordAt (ascii : Bool) (s : Array Char) (i : Nat) : Bool :=
  (s[i]?).any fun c => Category.word.holds ascii c

/-- Whether an anchor holds at a position. -/
def Anchor.holds (s : Array Char) (i : Nat) : Anchor → Bool
  | textStart => i == 0
  | lineStart => i == 0 || s[i - 1]? == some '\n'
  | textEnd => i == s.size
  | lineEnd => i == s.size || s[i]? == some '\n'
  | lastLineEnd => i == s.size || (i + 1 == s.size && s[i]? == some '\n')
  | wordEdge ascii negated =>
    !s.isEmpty &&
      (((0 < i && isWordAt ascii s (i - 1)) != isWordAt ascii s i) != negated)

/-- Whether the text at position `i` repeats `n` characters from position `j` on. -/
def repeats (folding : Folding) (s : Array Char) (j i : Nat) : Nat → Bool
  | 0 => true
  | n + 1 =>
    match s[j]?, s[i]? with
    | some a, some b => folding.sameReferred a b && repeats folding s (j + 1) (i + 1) n
    | _, _ => false

/-! ## Repetition of one character -/

/-- The number of characters from position `i` on that pass a test, at most `limit`. -/
def countPassing (t : Test) (s : Array Char) (i : Nat) : Nat → Nat
  | 0 => 0
  | limit + 1 =>
    match s[i]? with
    | some c => if t.holds c then countPassing t s (i + 1) limit + 1 else 0
    | none => 0

/-- The continuation tried after `n` characters more than `least`, then after fewer. -/
def tryFewer (p : Place) (least : Nat) (k : Continuation) : Nat → Option Place
  | 0 => k { p with position := p.position + least }
  | n + 1 =>
    match k { p with position := p.position + least + (n + 1) } with
    | some r => some r
    | none => tryFewer p least k n

/-- The continuation tried after `done` characters, then after more, up to `n` more. -/
def tryMore (p : Place) (done : Nat) (k : Continuation) : Nat → Option Place
  | 0 => k { p with position := p.position + done }
  | n + 1 =>
    match k { p with position := p.position + done } with
    | some r => some r
    | none => tryMore p (done + 1) k n

/-- Repetition of a test of one character. -/
def runSpan (t : Test) (min : Nat) (max : Option Nat) (greedy : Bool) (s : Array Char) (p : Place)
    (k : Continuation) : Option Place :=
  let room := s.size - p.position
  let count := countPassing t s p.position ((max.map (Nat.min room)).getD room)
  if count < min then none
  else if greedy then tryFewer p min k (count - min)
  else tryMore p min k (count - min)

/-! ## Repetition of anything -/

/-- Repetition of `body`: `done` rounds were made, the last optional one from position `last`. -/
def runLoop (body : Place → Continuation → Option Place) (min : Nat) (max : Option Nat)
    (greedy : Bool) : Nat → Nat → Option Nat → Place → Continuation → Option Place
  | 0, _, _, _, _ => none
  | fuel + 1, done, last, p, k =>
    if done < min then body p fun q => runLoop body min max greedy fuel (done + 1) last q k
    else
      let more (_ : Unit) : Option Place :=
        if (max.all (done < ·)) && last != some p.position then
          body p fun q => runLoop body min max greedy fuel (done + 1) (some p.position) q k
        else none
      if greedy then
        match more () with
        | some r => some r
        | none => k p
      else
        match k p with
        | some r => some r
        | none => more ()

/-! ## Trees -/

/-- The match of a tree at a place, followed by a continuation. -/
def Node.run (s : Array Char) : Node → Place → Continuation → Option Place
  | empty, p, k => k p
  | single t, p, k =>
    match s[p.position]? with
    | some c => if t.holds c then k { p with position := p.position + 1 } else none
    | none => none
  | anchor a, p, k => if a.holds s p.position then k p else none
  | seq a b, p, k => a.run s p fun q => b.run s q k
  | alt a b, p, k =>
    match a.run s p k with
    | some r => some r
    | none => b.run s p k
  | group i body, p, k =>
    body.run s p fun q => k (q.setGroup i p.position)
  | span t min max greedy, p, k => runSpan t min max greedy s p k
  | loop body min max greedy, p, k =>
    runLoop (body.run s) min max greedy (min + (s.size - p.position) + 2) 0 none p k
  | backreference folding i, p, k =>
    match p.group? i with
    | some (start, stop) =>
      if repeats folding s start p.position (stop - start) then
        k { p with position := p.position + (stop - start) }
      else none
    | none => none
  | look back negated body, p, k =>
    let found :=
      if back.any (p.position < ·) then none
      else body.run s { p with position := p.position - back.getD 0 } some
    match found, negated with
    | some q, false => k { q with position := p.position }
    | none, true => k p
    | _, _ => none

/-! ## Matches -/

/-- A match: its bounds and those of its groups. -/
structure Match where
  start : Nat
  stop : Nat
  groups : List (Option (Nat × Nat))
  deriving DecidableEq, Repr

/-- The bounds of group `i`; group zero is the whole match. -/
def Match.group? (m : Match) (i : Nat) : Option (Nat × Nat) :=
  if i = 0 then some (m.start, m.stop) else (m.groups[i - 1]?).join

/-- The part of a text between two bounds. -/
def extract (s : Array Char) (start stop : Nat) : Text := (s.extract start stop).toList

/-- The match at a position whose end satisfies `accept`. -/
def matchAt? (root : Node) (groups : Nat) (s : Array Char) (accept : Nat → Bool) (i : Nat) :
    Option Match :=
  let finish (q : Place) : Option Place := if accept q.position then some q else none
  (root.run s ⟨i, List.replicate groups none⟩ finish).map fun q => ⟨i, q.position, q.groups⟩

/-- The first match from position `i` on, `room` further positions being left.  If `advance`, an
    empty match at position `i` does not count. -/
def searchFrom? (root : Node) (groups : Nat) (s : Array Char) (advance : Bool) (i : Nat) :
    Nat → Option Match
  | 0 => matchAt? root groups s (fun stop => !advance || stop != i) i
  | room + 1 =>
    match matchAt? root groups s (fun stop => !advance || stop != i) i with
    | some m => some m
    | none => searchFrom? root groups s false (i + 1) room

/-- The matches from position `i` on. -/
def matchesFrom (root : Node) (groups : Nat) (s : Array Char) :
    Nat → Bool → Nat → List Match
  | 0, _, _ => []
  | fuel + 1, advance, i =>
    if s.size < i then []
    else
      match searchFrom? root groups s advance i (s.size - i) with
      | some m => m :: matchesFrom root groups s fuel (m.start == m.stop) m.stop
      | none => []

end Textwork.Pattern
