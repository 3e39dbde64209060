/-
  Entities for the characters that mean something in marked up text.

  `escape` writes six characters as entities.  `unescape` reads these entities,
  and the decimal ones of the quote and the backtick, in any letter case.
-/
import Textwork.Text.Basic

namespace Textwork.Markup

/-- The entity that `escape` writes for a character, or the character itself. -/
def entityOf (c : Char) : Text :=
  if c = '<' then "&lt;".toList
  else if c = '>' then "&gt;".toList
  else if c = '&' then "&amp;".toList
  else if c = '"' then "&quot;".toList
  else if c = '\'' then "&#x27;".toList
  else if c = '\x60' then "&#x60;".toList
  else [c]

/-- The text with the special characters written as entities. -/
def escape (t : Text) : Text := t.flatMap entityOf

/-- The entities that `unescape` reads. -/
def entities : List (Text × Char) := [
  ("&lt;".toList, '<'), ("&gt;".toList, '>'), ("&amp;".toList, '&'), ("&quot;".toList, '"'),
  ("&#x27;".toList, '\''), ("&#39;".toList, '\''), ("&#x60;".toList, '\x60'),
  ("&#96;".toList, '\x60')]

/-- The entity at the start of a text, in any letter case: its length and its character. -/
def leadingEntity? (t : Text) : Option (Nat × Char) :=
  (entities.find? fun (name, _) => name.isPrefixOf (Text.asciiLower (t.take 6))).map
    fun (name, c) => (name.length, c)

/-- The text with its entities read, `held` characters of one being passed over. -/
def unescapeFrom (held : Nat) : Text → Text
  | [] => []
  | c :: rest =>
    match held with
    | n + 1 => unescapeFrom n rest
    | 0 =>
      match (if c = '&' then leadingEntity? (c :: rest) else none) with
      | some (size, read) => read :: unescapeFrom (size - 1) rest
      | none => c :: unescapeFrom 0 rest

/-- The text with its entities read. -/
def unescape (t : Text) : Text := unescapeFrom 0 t

end Textwork.Markup
