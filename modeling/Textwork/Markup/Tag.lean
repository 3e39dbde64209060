/-
  Removal of tags from marked up text.

  A reader walks through the text in one of four modes: outside of tags, inside
  a tag, inside a declaration `<!…>`, inside a comment.  Inside a tag it counts
  the tags opened within, remembers an open quote, and, if some tags are to be
  kept, collects the text of the tag.  Each `step` looks at one character, at
  those before it and at the one after it.

  * `scan` is the run of the reader: the final state and what was written;
  * `removeTags` is what a run from the start writes;
  * `tagName` is the name of a collected tag, `tagNames` those listed in a text
    such as `<a><b>`.
-/
import Textwork.Text.Casing
import Textwork.Unicode.Letter

namespace Textwork.Markup

/-! ## Names -/

/-- The name in the text of a tag, `started` telling whether a character of it was seen. -/
def tagNameFrom (started : Bool) : Text → Text
  | [] => []
  | c :: rest =>
    if c = '<' then tagNameFrom started rest
    else if c = '>' then []
    else if Unicode.isBlank c then (if started then [] else tagNameFrom false rest)
    else if c = '/' then tagNameFrom true rest
    else c :: tagNameFrom true rest

/-- The name of a tag such as `<a href="#">` or `</b>`, in lower case. -/
def tagName (tag : Text) : Text := tagNameFrom false tag.lower

/-- The names listed as tags of letters and digits, in lower case; the characters in `open?` were
    met since an opening angle bracket, latest first. -/
def tagNamesFrom (open? : Option Text) : Text → List Text
  | [] => []
  | c :: rest =>
    if c = '<' then tagNamesFrom (some []) rest
    else
      match open? with
      | none => tagNamesFrom none rest
      | some name =>
        if c = '>' then
          if name.isEmpty then tagNamesFrom none rest
          else Text.asciiLower name.reverse :: tagNamesFrom none rest
        else tagNamesFrom (if c.isAlphanum then some (c :: name) else none) rest

/-- The names listed as tags of letters and digits, in lower case. -/
def tagNames (t : Text) : List Text := tagNamesFrom none t

/-! ## The reader -/

/-- Where the reader is. -/
inductive Mode where
  | outside
  | tag
  | declaration
  | comment
  deriving DecidableEq, Repr

/-- What the reader remembers. -/
structure State where
  mode : Mode
  /-- the tags opened inside the current one -/
  depth : Nat
  /-- the open quote -/
  quote : Option Char
  /-- the text of the current tag -/
  collected : Text
  deriving DecidableEq, Repr

/-- The state before the first character. -/
def State.initial : State := ⟨.outside, 0, none, []⟩

/-- What the reader is told: the names of the tags to keep, and what replaces the others. -/
structure Policy where
  kept : List Text
  replacement : Text

/-- Whether tags are collected. -/
def Policy.collects (p : Policy) : Bool := !p.kept.isEmpty

/-- A character taken as it is: written outside of tags, collected inside a tag. -/
def take (p : Policy) (s : State) (c : Char) : State × Text :=
  match s.mode with
  | .outside => (s, [c])
  | .tag => (if p.collects then { s with collected := s.collected ++ [c] } else s, [])
  | _ => (s, [])

/-- A character of an opened tag, declaration or comment left out. -/
def skip (s : State) : State × Text := (s, [])

/-- Whether the characters before, nearest first, and `c` end a `doctype` in any case. -/
def endsDoctype (before : Text) (c : Char) : Bool :=
  Text.asciiLower (c :: before.take 6) == "epytcod".toList

/-- The state after an opening angle bracket. -/
def openAngle (p : Policy) (s : State) (after : Text) : State × Text :=
  if s.quote.isSome then skip s
  else if after.head? = some ' ' then take p s '<'
  else
    match s.mode with
    | .outside => take p { s with mode := .tag } '<'
    | .tag => skip { s with depth := s.depth + 1 }
    | _ => take p s '<'

/-- The end of a tag: the tag itself if its name is to be kept, else the replacement. -/
def closeTag (p : Policy) (s : State) : State × Text :=
  let left : State := { s with mode := .outside, quote := none }
  if p.collects then
    let tag := s.collected ++ ['>']
    ({ left with collected := [] }, if p.kept.elem (tagName tag) then tag else p.replacement)
  else (left, p.replacement)

/-- The state after a closing angle bracket. -/
def closeAngle (p : Policy) (s : State) (before : Text) : State × Text :=
  if 0 < s.depth then skip { s with depth := s.depth - 1 }
  else if s.quote.isSome then skip s
  else if s.mode = .tag then closeTag p s
  else if s.mode = .declaration ∨ (s.mode = .comment ∧ ['-', '-'].isPrefixOf before) then
    skip { s with mode := .outside, quote := none, collected := [] }
  else take p s '>'

/-- The quote that is open after the quote character `c` inside a tag. -/
def toggleQuote (c : Char) : Option Char → Option Char
  | none => some c
  | some q => if q = c then none else some q

/-- One step of the reader at `c`, between `before`, nearest first, and `after`: the next state and
    what is written. -/
def step (p : Policy) (before : Text) (c : Char) (after : Text) (s : State) : State × Text :=
  if c = '<' then openAngle p s after
  else if c = '>' then closeAngle p s before
  else if c = '!' then
    if s.mode = .tag ∧ before.head? = some '<' then skip { s with mode := .declaration }
    else take p s c
  else if c = '-' then
    if s.mode = .declaration ∧ ['-', '!'].isPrefixOf before then skip { s with mode := .comment }
    else take p s c
  else if c = '\'' ∨ c = '"' then
    take p (if s.mode = .tag then { s with quote := toggleQuote c s.quote } else s) c
  else if c = 'e' ∨ c = 'E' then
    if s.mode = .declaration ∧ endsDoctype before c then skip { s with mode := .tag }
    else take p s c
  else take p s c

/-- The run of the reader over a text after the characters `before`, nearest first: the final state
    and what is written. -/
def scan (p : Policy) (before : Text) (s : State) : Text → State × Text
  | [] => (s, [])
  | c :: rest =>
    let (next, written) := step p before c rest s
    let (final, more) := scan p (c :: before) next rest
    (final, written ++ more)

/-- The text without its tags, declarations and comments.  A tag that is not kept is replaced. -/
def removeTags (p : Policy) (t : Text) : Text := (scan p [] .initial t).2

end Textwork.Markup
