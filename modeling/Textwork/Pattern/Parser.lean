/-
  Patterns read from text.

  The grammar: a choice of sequences; a sequence of items, each with an optional
  quantifier `*`, `+`, `?`, `{m}`, `{m,}`, `{,n}`, `{m,n}`, lazy with a `?`
  behind it; an item is a literal, an escape, `.`, `^`, `$`, a set in brackets or
  a group.  Groups are captured, named, plain `(?:…)`, with options `(?i:…)`,
  looks `(?=…)`, `(?!…)`, `(?<=…)`, `(?<!…)`, named back references and comments.

  `parse?` reads a whole text.  The functions below it carry the text that is
  left, the options in force and the groups met so far; their first argument
  bounds the depth of calls and is twice as large as any text needs.
-/
import Textwork.Pattern.Syntax
import Textwork.Unicode.Mark

namespace Textwork.Pattern

open Node (Width)

/-! ## State -/

/-- What has been read of a pattern. -/
structure Progress where
  /-- the text that is left -/
  rest : Text
  flags : Flags
  /-- the number of groups opened -/
  opened : Nat
  /-- the groups closed, with their widths -/
  closed : List (Nat × Width)
  names : List (Text × Nat)
  /-- inside a look behind: the number of groups opened before it -/
  behind : Option Nat

/-- The kinds of items, as far as a quantifier cares. -/
inductive Shape where
  | atom
  | anchor
  | repeated
  deriving DecidableEq, Repr

/-- An item of a sequence. -/
abbrev Item := Shape × Node

/-- A pattern that cannot be read. -/
def refuse {α : Type} : Except Fault α := .error .badPattern

/-! ## Numbers and names -/

/-- Exactly `n` hexadecimal digits: their value and the rest. -/
def hexDigits? (n : Nat) (t : Text) : Option (Nat × Text) :=
  let digit (c : Char) : Option Nat :=
    if c.isDigit then some (c.toNat - '0'.toNat)
    else if 'a' ≤ c.toLower && c.toLower ≤ 'f' then some (c.toLower.toNat - 'a'.toNat + 10)
    else none
  if t.length < n then none
  else ((t.take n).foldlM (fun acc c => (digit c).map (16 * acc + ·)) 0).map (·, t.drop n)

/-- An octal digit. -/
def isOctal (c : Char) : Bool := '0' ≤ c && c ≤ '7'

/-- The value of octal digits. -/
def octalValue (digits : Text) : Nat := digits.foldl (fun n c => 8 * n + (c.toNat - '0'.toNat)) 0

/-- The character with a code, if there is one. -/
def charOf? (n : Nat) : Option Char := if n.isValidChar then some (Char.ofNat n) else none

/-- A name: a letter or an underscore, then letters, digits, marks and underscores. -/
def isName : Text → Bool
  | [] => false
  | c :: rest =>
    (Unicode.isLetter c || c == '_') &&
      rest.all fun d => Unicode.isLetter d || Unicode.isDecimal d || Unicode.isMark d || d == '_'

/-- The text before `stop` and the text after it. -/
def until? (stop : Char) (t : Text) : Option (Text × Text) :=
  match t.dropWhile (· != stop) with
  | [] => none
  | _ :: after => some (t.takeWhile (· != stop), after)

/-- The greatest number of repetitions. -/
def maxRepetitions : Nat := 4294967295

/-- The bounds of a quantifier in braces and the rest; `none` if the brace stands for itself. -/
def braces? (t : Text) : Option (Option Nat × Option Nat × Text) :=
  let digits (t : Text) : Option Nat × Text :=
    let ds := t.takeWhile Char.isDigit
    (if ds.isEmpty then none else some (Numeral.value ds), t.dropWhile Char.isDigit)
  if t.head? = some '}' then none
  else
    let (low, rest) := digits t
    match rest with
    | ',' :: rest =>
      let (high, rest) := digits rest
      match rest with
      | '}' :: rest => some (low, high, rest)
      | _ => none
    | '}' :: rest => some (low, low, rest)
    | _ => none

/-! ## Escapes -/

/-- The control characters written as a letter after a backslash. -/
def controlEscape? : Char → Option Char
  | 'a' => some '\x07'
  | 'f' => some '\x0c'
  | 'n' => some '\n'
  | 'r' => some '\r'
  | 't' => some '\t'
  | 'v' => some '\x0b'
  | _ => none

/-- The class written as a letter after a backslash, negated for a capital. -/
def categoryEscape? : Char → Option Member
  | 'd' => some (.category false .digit)
  | 'D' => some (.category true .digit)
  | 's' => some (.category false .blank)
  | 'S' => some (.category true .blank)
  | 'w' => some (.category false .word)
  | 'W' => some (.category true .word)
  | _ => none

/-- The anchor written as a letter after a backslash. -/
def anchorEscape? (f : Flags) : Char → Option Anchor
  | 'A' => some .textStart
  | 'Z' => some .textEnd
  | 'b' => some (.wordEdge f.ascii false)
  | 'B' => some (.wordEdge f.ascii true)
  | _ => none

/-- A code in hexadecimal digits after `x`, `u` or `U`. -/
def codeEscape? (c : Char) (rest : Text) : Option (Option (Char × Text)) :=
  let read (n : Nat) := (hexDigits? n rest).bind fun (v, after) => (charOf? v).map (·, after)
  match c with
  | 'x' => some (read 2)
  | 'u' => some (read 4)
  | 'U' => some (read 8)
  | _ => none

/-- A literal under the given options. -/
def literal (f : Flags) (c : Char) : Node := .single (.literal f.folding c)

/-- A set under the given options. -/
def setOf (f : Flags) (negated : Bool) (members : List Member) : Node :=
  .single (.oneOf f.folding f.ascii negated members)

/-- A reference to group `i`, which has to be closed and not inside the same look behind. -/
def reference (p : Progress) (i : Nat) : Except Fault Node :=
  if (p.closed.lookup i).isNone then refuse
  else if p.behind.any (· < i) then refuse
  else .ok (.backreference p.flags.folding i)

/-- A number after a backslash: three octal digits, or the number of a group. -/
def numberEscape (p : Progress) (c : Char) (rest : Text) : Except Fault (Node × Text) :=
  let refer (digits : Text) (rest : Text) := (reference p (Numeral.value digits)).map (·, rest)
  match rest with
  | d :: rest' =>
    if d.isDigit then
      match rest' with
      | e :: rest'' =>
        if isOctal c && isOctal d && isOctal e then
          if octalValue [c, d, e] ≤ 255 then
            .ok (literal p.flags (Char.ofNat (octalValue [c, d, e])), rest'')
          else refuse
        else refer [c, d] rest'
      | [] => refer [c, d] rest'
    else refer [c] rest
  | [] => refer [c] rest

/-- An escape outside of a set, after its backslash. -/
def escape (p : Progress) : Text → Except Fault (Item × Text)
  | [] => refuse
  | c :: rest =>
    match anchorEscape? p.flags c, categoryEscape? c, controlEscape? c, codeEscape? c rest with
    | some a, _, _, _ => .ok ((.anchor, .anchor a), rest)
    | _, some m, _, _ => .ok ((.atom, setOf p.flags false [m]), rest)
    | _, _, some x, _ => .ok ((.atom, literal p.flags x), rest)
    | _, _, _, some (some (x, after)) => .ok ((.atom, literal p.flags x), after)
    | _, _, _, some none => refuse
    | none, none, none, none =>
      if c = '0' then
        let more := (rest.take 2).takeWhile isOctal
        .ok ((.atom, literal p.flags (Char.ofNat (octalValue more))), rest.drop more.length)
      else if c.isDigit then (numberEscape p c rest).map fun (n, after) => ((.atom, n), after)
      else if c.isAlpha then refuse
      else .ok ((.atom, literal p.flags c), rest)

/-- An escape inside a set, after its backslash. -/
def setEscape : Text → Except Fault (Member × Text)
  | [] => refuse
  | c :: rest =>
    let only (x : Char) : Member := .range x x
    match categoryEscape? c, controlEscape? c, codeEscape? c rest with
    | some m, _, _ => .ok (m, rest)
    | _, some x, _ => .ok (only x, rest)
    | _, _, some (some (x, after)) => .ok (only x, after)
    | _, _, some none => refuse
    | none, none, none =>
      if c = 'b' then .ok (only '\x08', rest)
      else if isOctal c then
        let digits := c :: (rest.take 2).takeWhile isOctal
        if octalValue digits ≤ 255 then
          .ok (only (Char.ofNat (octalValue digits)), rest.drop (digits.length - 1))
        else refuse
      else if c.isAlphanum then refuse
      else .ok (only c, rest)

/-! ## Sets -/

/-- One end of a range, or a member alone. -/
def setMember : Text → Except Fault (Member × Text)
  | [] => refuse
  | '\\' :: rest => setEscape rest
  | c :: rest => .ok (.range c c, rest)

/-- The members of a set up to its closing bracket; `read` are those before, latest first. -/
def setMembers : Nat → List Member → Text → Except Fault (List Member × Text)
  | 0, _, _ => refuse
  | fuel + 1, read, t =>
    match t with
    | [] => refuse
    | c :: rest =>
      if c = ']' && !read.isEmpty then .ok (read.reverse, rest)
      else do
        let (low, after) ← setMember t
        match after with
        | '-' :: ']' :: after => .ok ((.range '-' '-' :: low :: read).reverse, after)
        | '-' :: after =>
          let (high, after) ← setMember after
          match low, high with
          | .range a _, .range b _ =>
            if b < a then refuse else setMembers fuel (.range a b :: read) after
          | _, _ => refuse
        | after => setMembers fuel (low :: read) after

/-- A set after its opening bracket. -/
def set (f : Flags) (t : Text) : Except Fault (Node × Text) := do
  let (negated, body) := match t with
    | '^' :: rest => (true, rest)
    | t => (false, t)
  let (members, rest) ← setMembers (body.length + 1) [] body
  match negated, members with
  | false, [.range a b] =>
    .ok (if a = b then literal f a else setOf f false members, rest)
  | _, _ => .ok (setOf f negated members, rest)

/-! ## Quantifiers -/

/-- The bounds of a quantifier that starts with `c` and the rest; `none` if `c` is none. -/
def quantifier? (c : Char) (rest : Text) : Option (Option Nat × Option Nat × Text) :=
  if c = '*' then some (none, none, rest)
  else if c = '+' then some (some 1, none, rest)
  else if c = '?' then some (none, some 1, rest)
  else if c = '{' then braces? rest
  else none

/-- The last item, latest first, repeated. -/
def quantify (low high : Option Nat) (rest : Text) (read : List Item) :
    Except Fault (List Item × Text) :=
  if low.any (maxRepetitions ≤ ·) || high.any (maxRepetitions ≤ ·) then .error .tooLarge
  else if high.any (· < low.getD 0) then refuse
  else
    match read with
    | (.atom, node) :: before =>
      let (greedy, rest) := match rest with
        | '?' :: rest => (false, rest)
        | rest => (true, rest)
      if greedy && rest.head? = some '+' then refuse
      else .ok ((.repeated, node.repeated (low.getD 0) high greedy) :: before, rest)
    | _ => refuse

/-! ## Inline options -/

/-- An option letter put in force, or out of force. -/
def Flags.put (f : Flags) (value : Bool) : Char → Option Flags
  | 'i' => some { f with ignoreCase := value }
  | 'm' => some { f with multiline := value }
  | 's' => some { f with dotAll := value }
  | 'x' => some { f with verbose := value }
  | 'a' => some { f with ascii := value }
  | 'u' => some { f with unicode := value }
  | _ => none

/-- Option letters, each put to `value`: the options and the rest. -/
def putAll (f : Flags) (value : Bool) (letters : Text) : Except Fault Flags :=
  letters.foldlM (fun f c =>
    if !value && (c == 'a' || c == 'u') then refuse
    else match f.put value c with
      | some f => .ok f
      | none => refuse) f

/-- Inline options after `(?`: the options and whether they hold for the whole pattern, that is,
    end with a parenthesis and not with a colon. -/
def inlineFlags (f : Flags) (t : Text) : Except Fault (Flags × Bool × Text) := do
  let isLetter (c : Char) := c.isAlpha
  let on := t.takeWhile isLetter
  let inForce ← putAll f true on
  if on.elem 'a' && on.elem 'u' then refuse
  match t.dropWhile isLetter with
  | ')' :: rest => if on.isEmpty then refuse else .ok (inForce, true, rest)
  | ':' :: rest => .ok ({ inForce with
      ascii := if on.elem 'u' then false else inForce.ascii
      unicode := if on.elem 'a' then false else inForce.unicode }, false, rest)
  | '-' :: rest =>
    let off := rest.takeWhile isLetter
    match rest.dropWhile isLetter with
    | ':' :: rest =>
      if off.isEmpty || off.any on.elem then refuse
      else do
        let inForce ← putAll inForce false off
        .ok (inForce, false, rest)
    | _ => refuse
  | _ => refuse

/-! ## Sequences, choices and groups -/

/-- The text without blanks and comments at its start. -/
def skipVerbose : Nat → Text → Text
  | 0, t => t
  | fuel + 1, t =>
    match t with
    | '#' :: rest => skipVerbose fuel ((rest.dropWhile (· != '\n')).drop 1)
    | c :: rest => if Numeral.isAsciiBlank c then skipVerbose fuel rest else t
    | [] => []

/-- A closing parenthesis. -/
def closed (p : Progress) : Except Fault Progress :=
  match p.rest with
  | ')' :: rest => .ok { p with rest }
  | _ => refuse

/-- What a group turns out to be. -/
inductive Opening where
  | captured (name : Option Text)
  | plain (flags : Flags)
  | look (behind negated : Bool)
  | node (n : Node)
  | nothing (flags : Flags)

/-- The opening of a group, after its parenthesis.  Options for the whole pattern are taken only
    if `first`: nothing but such options came before. -/
def opening (p : Progress) (first : Bool) : Except Fault (Opening × Text) :=
  match p.rest with
  | '?' :: 'P' :: '<' :: rest =>
    match until? '>' rest with
    | some (name, after) => if isName name then .ok (.captured (some name), after) else refuse
    | none => refuse
  | '?' :: 'P' :: '=' :: rest =>
    match until? ')' rest with
    | some (name, after) =>
      match p.names.lookup name with
      | some i => (reference p i).map fun n => (.node n, after)
      | none => refuse
    | none => refuse
  | '?' :: ':' :: rest => .ok (.plain p.flags, rest)
  | '?' :: '#' :: rest =>
    match until? ')' rest with
    | some (_, after) => .ok (.nothing p.flags, after)
    | none => refuse
  | '?' :: '=' :: rest => .ok (.look false false, rest)
  | '?' :: '!' :: rest => .ok (.look false true, rest)
  | '?' :: '<' :: '=' :: rest => .ok (.look true false, rest)
  | '?' :: '<' :: '!' :: rest => .ok (.look true true, rest)
  | '?' :: rest => do
    let (flags, global, after) ← inlineFlags p.flags rest
    if global then (if first then .ok (.nothing flags, after) else refuse)
    else .ok (.plain flags, after)
  | rest => .ok (.captured none, rest)

mutual

/-- A choice of sequences. -/
def choice : Nat → Bool → Progress → Except Fault (Node × Progress)
  | 0, _, _ => refuse
  | fuel + 1, first, p => do
    let (node, p) ← sequence fuel first [] p
    match p.rest with
    | '|' :: rest => do
      let (other, p) ← choice fuel false { p with rest }
      .ok (.alt node other, p)
    | _ => .ok (node, p)

/-- The rest of a sequence; `read` are its items so far, latest first. -/
def sequence : Nat → Bool → List Item → Progress → Except Fault (Node × Progress)
  | 0, _, _, _ => refuse
  | fuel + 1, first, read, p => do
    let rest := if p.flags.verbose then skipVerbose p.rest.length p.rest else p.rest
    let finish := (Node.ofList (read.reverse.map Prod.snd), { p with rest })
    match rest with
    | [] => .ok finish
    | c :: rest =>
      if c = '|' ∨ c = ')' then .ok finish
      else if c = '\\' then do
        let (item, rest) ← escape p rest
        sequence fuel first (item :: read) { p with rest }
      else if c = '[' then do
        let (node, rest) ← set p.flags rest
        sequence fuel first ((.atom, node) :: read) { p with rest }
      else if c = '.' then
        sequence fuel first ((.atom, .single (.any p.flags.dotAll)) :: read) { p with rest }
      else if c = '^' then
        let anchor := if p.flags.multiline then .lineStart else .textStart
        sequence fuel first ((.anchor, .anchor anchor) :: read) { p with rest }
      else if c = '$' then
        let anchor := if p.flags.multiline then .lineEnd else .lastLineEnd
        sequence fuel first ((.anchor, .anchor anchor) :: read) { p with rest }
      else if c = '(' then do
        let (item, p) ← group fuel (first && read.isEmpty) { p with rest }
        sequence fuel first (item.toList ++ read) p
      else
        match quantifier? c rest with
        | some (low, high, rest) => do
          let (read, rest) ← quantify low high rest read
          sequence fuel first read { p with rest }
        | none => sequence fuel first ((.atom, literal p.flags c) :: read) { p with rest }

/-- A group after its parenthesis; options and comments give no item. -/
def group : Nat → Bool → Progress → Except Fault (Option Item × Progress)
  | 0, _, _ => refuse
  | fuel + 1, first, p => do
    let (opened, rest) ← opening p first
    match opened with
    | .nothing flags => .ok (none, { p with rest, flags })
    | .node n => .ok (some (.atom, n), { p with rest })
    | .plain flags => do
      let (node, q) ← choice fuel false { p with rest, flags }
      let q ← closed q
      .ok (some (.atom, node), { q with flags := p.flags })
    | .captured name => do
      let index := p.opened + 1
      if name.any fun n => (p.names.lookup n).isSome then refuse
      let names := (name.map (·, index)).toList ++ p.names
      let (node, q) ← choice fuel false { p with rest, names, opened := index }
      let q ← closed q
      .ok (some (.atom, .group index node),
        { q with closed := (index, node.width q.closed) :: q.closed })
    | .look behind negated => do
      let inside := if behind then p.behind.orElse fun _ => some p.opened else p.behind
      let (node, q) ← choice fuel false { p with rest, behind := inside }
      let q ← closed q
      let back ← if behind then
          match node.width q.closed with
          | (low, high) => if high = some low then .ok (some low) else refuse
        else .ok none
      .ok (some (.atom, .look back negated node), { q with behind := p.behind })

end

/-- The tree of a whole pattern and what was met in it. -/
def parse? (source : Text) (flags : Flags) : Except Fault (Node × Progress) := do
  let (node, p) ← choice (2 * source.length + 4) true ⟨source, flags, 0, [], [], none⟩
  if !p.rest.isEmpty then refuse
  else if p.flags.ascii && p.flags.unicode then .error .flagConflict
  else .ok (node, p)

end Textwork.Pattern
