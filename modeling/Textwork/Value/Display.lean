/-
  Values as text.

  * `quoted` is a text as it stands inside the text of a list, `quotedBytes` a
    byte string.  A text is put between single quotes, or between double quotes
    if it holds a single and no double one.  The quote in use, the backslash and
    line controls are written after a backslash; any other character that does
    not print is written by its code, in two, four or eight hexadecimal digits.
  * `shown` is the form inside other values: texts quoted, decimals and
    fractions with the name of their kind;
  * `display` is the form on its own: a text as it is, a decimal or fraction by
    its numeral.

  The last two fail on an integer that is too long to be written; `unread` is
  what is left of a value when its members were written.
-/
import Textwork.Value.Basic
import Textwork.Unicode.Printable

namespace Textwork

/-! ## Quoted texts -/

namespace Text

/-- The quote that a text is put between. -/
def quoteFor (t : Text) : Char := if t.elem '\'' && !t.elem '"' then '"' else '\''

/-- A number in exactly `size` hexadecimal digits. -/
def hexCode (size n : Nat) : Text :=
  let digits := Nat.toDigits 16 n
  List.replicate (size - digits.length) '0' ++ digits

/-- A character by its code. -/
def codeEscape (c : Char) : Text :=
  let n := c.toNat
  if n < 0x100 then '\\' :: 'x' :: hexCode 2 n
  else if n < 0x10000 then '\\' :: 'u' :: hexCode 4 n
  else '\\' :: 'U' :: hexCode 8 n

/-- A character between quotes, if it is one that is always written after a backslash. -/
def shortEscape? (quote c : Char) : Option Text :=
  if c = quote ∨ c = '\\' then some ['\\', c]
  else if c = '\n' then some ['\\', 'n']
  else if c = '\r' then some ['\\', 'r']
  else if c = '\t' then some ['\\', 't']
  else none

/-- A character between quotes. -/
def quotedChar (quote c : Char) : Text :=
  (shortEscape? quote c).getD (if Unicode.isPrintable c then [c] else codeEscape c)

/-- A text between quotes. -/
def quoted (t : Text) : Text :=
  let q := quoteFor t
  q :: (t.flatMap (quotedChar q) ++ [q])

/-- A byte between quotes. -/
def quotedByte (quote : Char) (b : UInt8) : Text :=
  let c := Char.ofNat b.toNat
  (shortEscape? quote c).getD
    (if 0x20 ≤ b.toNat && b.toNat < 0x7F then [c] else codeEscape c)

/-- Bytes between quotes, after the letter `b`. -/
def quotedBytes (bytes : List UInt8) : Text :=
  let q := quoteFor (bytes.map fun b => Char.ofNat b.toNat)
  'b' :: q :: (bytes.flatMap (quotedByte q) ++ [q])

end Text

/-! ## Values -/

/-- The text of a truth value. -/
def boolText (b : Bool) : Text := if b then "True".toList else "False".toList

namespace Pattern

/-- The names of the options in force. -/
def Flags.names (f : Flags) : List Text :=
  [(f.ignoreCase, "re.IGNORECASE"), (f.multiline, "re.MULTILINE"), (f.dotAll, "re.DOTALL"),
    (f.verbose, "re.VERBOSE"), (f.ascii, "re.ASCII")].filterMap fun (on, name) =>
      if on then some name.toList else none

/-- A pattern as it is shown: its source, cut to 200 characters, and its options. -/
def shown (p : Pattern) : Text :=
  "re.compile(".toList ++ (Text.quoted p.source).take 200 ++
    (if p.flags.names.isEmpty then [] else ", ".toList ++ Text.join ['|'] p.flags.names) ++ [')']

end Pattern

namespace Value

/-- Items between brackets, with commas between them. -/
def bracketed (left right : Text) (items : List Text) : Text :=
  left ++ Text.join [',', ' '] items ++ right

/-- The text of a fraction: the numerator alone if it is whole. -/
def fractionText (r : Rat) : Except Fault Text := do
  let n ← Numeral.write? r.num
  if r.den = 1 then .ok n
  else do
    let d ← Numeral.write? r.den
    .ok (n ++ '/' :: d)

/-- A fraction inside another value. -/
def fractionShown (r : Rat) : Except Fault Text := do
  let n ← Numeral.write? r.num
  let d ← Numeral.write? r.den
  .ok ("Fraction(".toList ++ n ++ [',', ' '] ++ d ++ [')'])

mutual

/-- A value inside another value. -/
def shown : Value → Except Fault Text
  | nothing => .ok "None".toList
  | bool b => .ok (boolText b)
  | int n => Numeral.write? n
  | float x => .ok x.text
  | text t => .ok (Text.quoted t)
  | list items => do
    let ts ← shownAll items
    .ok (bracketed ['['] [']'] ts)
  | tuple items => do
    let ts ← shownAll items
    .ok (bracketed ['('] (if ts.length = 1 then [',', ')'] else [')']) ts)
  | dict entries => do
    let ts ← shownEntries entries
    .ok (bracketed ['{'] ['}'] ts)
  | fraction r => fractionShown r
  | decimal d => .ok ("Decimal('".toList ++ d.text ++ ['\'', ')'])
  | bytes b => .ok (Text.quotedBytes b)
  | iterator _ => .ok "<iterator>".toList
  | pattern p => .ok p.shown
  | callback _ => .ok "<function>".toList

/-- The values of a list, each as it is shown. -/
def shownAll : List Value → Except Fault (List Text)
  | [] => .ok []
  | v :: rest => do
    let t ← shown v
    let ts ← shownAll rest
    .ok (t :: ts)

/-- The entries of a table, each as it is shown. -/
def shownEntries : List (Value × Value) → Except Fault (List Text)
  | [] => .ok []
  | (k, v) :: rest => do
    let key ← shown k
    let value ← shown v
    let ts ← shownEntries rest
    .ok ((key ++ [':', ' '] ++ value) :: ts)

end

/-- A value on its own. -/
def display : Value → Except Fault Text
  | text t => .ok t
  | fraction r => fractionText r
  | decimal d => .ok d.text
  | v => v.shown

/-- A value as a text, `default` standing for nothing. -/
def textOr (default : Text) : Value → Except Fault Text
  | nothing => .ok default
  | v => v.display

/-- A value as a text, empty for nothing. -/
def toText (v : Value) : Except Fault Text := v.textOr []

/-- What is left of a value whose members were walked through and written one by one.  Of a sequence
    that can be walked through once, this is what follows the first member that cannot be written;
    any other value is left as it was. -/
def unread : Value → Value
  | iterator items => iterator (items.dropWhile (·.display.isOk)).tail
  | v => v

end Value

end Textwork
