/-
  Letter case of texts, and slugs.

  * `upper` and `lower` map every character; the lower case of a capital sigma
    depends on whether it ends a word;
  * `swapped` exchanges the two;
  * `camel`, `kebab` and `snake` join the words of a text, `title` capitalizes
    them in place;
  * `slug` joins the words of a text in lower case for use in an address.
    `latinise` decomposes the text and drops the marks; a slug in ASCII drops
    whatever is left beyond it, a slug in Unicode is composed instead.
-/
import Textwork.Text.Parts
import Textwork.Unicode.Normalization

namespace Textwork.Text

/-! ## Lower and upper case -/

/-- Whether the first character that the final sigma rule does not look through is cased. -/
def meetsCased (t : Text) : Bool :=
  (t.dropWhile Unicode.isCaseIgnorable).head?.any Unicode.isCased

/-- The lower case form of a character between `before`, nearest first, and `after`. -/
def lowerBetween (before : Text) (c : Char) (after : Text) : Text :=
  if c = 'Σ' then (if meetsCased before && !meetsCased after then ['ς'] else ['σ'])
  else Unicode.lowerOf c

/-- Each character mapped by `f`, which sees the characters before it, nearest first, and after. -/
def mapInContext (f : Text → Char → Text → Text) (before : Text) : Text → Text
  | [] => []
  | c :: rest => f before c rest ++ mapInContext f (c :: before) rest

/-- The lower case form. -/
def lower (t : Text) : Text := mapInContext lowerBetween [] t

/-- The upper case form. -/
def upper (t : Text) : Text := t.flatMap Unicode.upperOf

/-- A character with its case exchanged, between `before` and `after`. -/
def swapBetween (before : Text) (c : Char) (after : Text) : Text :=
  if Unicode.isUppercase c then lowerBetween before c after
  else if Unicode.isLowercase c then Unicode.upperOf c
  else [c]

/-- Upper case letters in lower case and lower case letters in upper case. -/
def swapped (t : Text) : Text := mapInContext swapBetween [] t

/-! ## First characters -/

/-- The first character in upper case, the rest as it is or in lower case. -/
def capitalized (t : Text) (restToLower : Bool) : Text :=
  upper (t.take 1) ++ (if restToLower then lower (t.drop 1) else t.drop 1)

/-- The first character in lower case. -/
def decapitalized (t : Text) : Text := lower (t.take 1) ++ t.drop 1

/-! ## Words -/

/-- The words joined, the first in lower case and the others capitalized. -/
def camel (t : Text) : Text :=
  match t.words with
  | [] => []
  | w :: rest => lower w ++ rest.flatMap (capitalized · true)

/-- The words in lower case with hyphens between them. -/
def kebab (t : Text) : Text := join ['-'] (t.words.map lower)

/-- The words in lower case with underscores between them. -/
def snake (t : Text) : Text := join ['_'] (t.words.map lower)

/-- All characters are letters, and there is one. -/
def isAlphabetic (t : Text) : Bool := !t.isEmpty && t.all Unicode.isLetter

/-- Each letter in upper case if `starts` holds of what was written for the character before it, and
    in lower case otherwise. -/
def titleFrom (starts : Text → Bool) (previous : Text) : Text → Text
  | [] => []
  | c :: rest =>
    let written :=
      if Unicode.isLetter c then (if starts previous then upper [c] else lower [c]) else [c]
    written ++ titleFrom starts written rest

/-- Whether a letter after `previous` starts a word, `joining` being the characters that do not part
    words. -/
def startsTitleWord (joining previous : Text) : Bool :=
  !isAlphabetic previous && (previous.isEmpty || !isInfix previous joining)
where
  /-- Whether one text occurs in another. -/
  isInfix (needle : Text) : Text → Bool
    | [] => needle.isEmpty
    | c :: rest => needle.isPrefixOf (c :: rest) || isInfix needle rest

/-- The words capitalized in place; letters after a character of `joining` keep to the word. -/
def title (t joining : Text) : Text := titleFrom (startsTitleWord joining) [] t

/-! ## Letters of one case -/

/-- All characters are letters, and lower casing changes nothing. -/
def isLower (t : Text) : Bool := t.isAlphabetic && t == t.lower

/-- All characters are letters, and upper casing changes nothing. -/
def isUpper (t : Text) : Bool := t.isAlphabetic && t == t.upper

/-! ## Slugs -/

/-- The text without diacritics. -/
def latinise (t : Text) : Text :=
  (Unicode.nfkd t).filter fun c => Unicode.combiningClass c == 0

/-- The characters of a text that are ASCII. -/
def asciiOnly (t : Text) : Text := t.filter fun c => c.toNat < 128

/-- The words of a slug, in lower case. -/
def slugWords (t : Text) (inUnicode : Bool) : List Text :=
  (words (if inUnicode then Unicode.nfkc t else asciiOnly (latinise t))).map lower

/-- The slug of a text. -/
def slug (t separator : Text) (inUnicode : Bool) : Text := join separator (slugWords t inUnicode)

end Textwork.Text
