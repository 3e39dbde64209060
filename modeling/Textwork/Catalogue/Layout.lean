/-
  Functions that bring texts into shape: padding, trimming, cutting, wrapping,
  repeating, slugs and markup.
-/
import Textwork.Catalogue.Signature
import Textwork.Markup.Entity
import Textwork.Markup.Tag
import Textwork.Pattern.Basic
import Textwork.Text.Layout
import Textwork.Text.Casing
import Textwork.Value.Comparison
import Textwork.Value.Numbers

namespace Textwork.Catalogue

/-! ## Padding -/

/-- A text padded to a length; `longest` is the longest fill that this takes, of a number of missing
    characters.  It stands beside the text and the rest of the missing characters. -/
def padded (longest : Nat → Nat) (pad : Text → Int → Text → Text) (v length pattern : Value) :
    Except Fault Value := do
  let t ← v.toText
  let target ← length.toIntOr 0
  let p ← pattern.textOr [' ']
  let n := longest (t.missing target)
  Text.checkFill p n (t.length + (t.missing target - n))
  .ok (.text (pad t target p))

/-- A sequence repeated and cut to a length: the items, and the value that items make up. -/
def filled {α : Type} (items : List α) (wrap : List α → Value) (n : Nat) : Except Fault Value := do
  Text.checkCopies items.length (n / items.length + 1)
  .ok (wrap ((List.replicate (n / items.length + 1) items).flatten.take n))

/-- The fill of a pattern, which may be any sequence, to a length. -/
def buildPadding (pattern length : Value) : Except Fault Value := do
  if !pattern.isTrue then .ok (.text [])
  else do
    let negative ← length.less (.int 0)
    if negative || length.same (.int 0) then .ok (.text [])
    else
      match length.toBound with
      | .ok (some n) =>
        match pattern with
        | .text t => filled t .text n.toNat
        | .list items => filled items .list n.toNat
        | .tuple items => filled items .tuple n.toNat
        | .bytes b => filled b .bytes n.toNat
        | _ => .error .wrongKind
      | _ => .error .wrongKind

/-- A text a number of times, once by default. -/
def repeated (v times : Value) : Except Fault Value := do
  let t ← v.toText
  let n ← times.toIntOr 1
  Text.checkCopies t.length n.toNat
  .ok (.text (t.times n.toNat))

/-! ## Trimming and cutting -/

/-- A text without the characters of a class at its ends; the class is blank by default. -/
def trimmed (trim : (Char → Bool) → Text → Text) (v characters : Value) : Except Fault Value := do
  let t ← v.toText
  match characters with
  | .nothing => .ok (.text (trim Unicode.isBlank t))
  | c => do
    let cs ← c.toText
    .ok (.text (trim cs.elem t))

/-- A text cut to a limit with a marker. -/
def shortened (cut : Text → Option Int → Text → Text) (v limit marker : Value) :
    Except Fault Value := do
  let t ← v.toText
  let n ← match limit with
    | .nothing => .ok none
    | l => (l.toIntOr 0).map some
  let m ← marker.textOr "...".toList
  .ok (.text (cut t n m))

/-- A text in lines. -/
def wordWrap (v width newLine indent cut : Value) : Except Fault Value := do
  let t ← v.toText
  let w ← width.toIntOr 75
  let separator ← newLine.textOr ['\n']
  let i ← indent.toText
  .ok (.text (t.wrap w separator i cut.isTrue))

/-! ## Slugs and markup -/

/-- The text that a slug is made of: the members of a sequence with spaces between them, or the
    value itself. -/
def slugSource : Value → Except Fault Text
  | .list items | .tuple items | .iterator items => joined items
  | .dict entries => joined (entries.map Prod.fst)
  | v => v.toText
where
  /-- The values with spaces between them. -/
  joined (items : List Value) : Except Fault Text := do
    let ts ← items.mapM Value.display
    .ok (Text.join [' '] ts)

/-- A slug.  Without words a separator of bytes gives no bytes. -/
def slugify (v separator allowUnicode : Value) : Except Fault Value := do
  let source ← slugSource v
  match separator with
  | .text s => .ok (.text (source.slug s allowUnicode.isTrue))
  | .bytes _ =>
    if (source.slugWords allowUnicode.isTrue).isEmpty then .ok (.bytes []) else .error .wrongKind
  | _ => .error .noOperation

/-- The names of the tags to keep: listed in a text, or given one by one.  A sequence that can be
    walked through once is used up by this, as `Value.unread` says. -/
def keptTags : Value → Except Fault (List Text)
  | .nothing => .ok []
  | .text t => .ok (Markup.tagNames t)
  | v => do
    let items ← v.items
    items.mapM fun tag => tag.toText.map Text.lower

/-- A text without its tags. -/
def stripTags (v kept replacement : Value) : Except Fault Value := do
  let t ← v.toText
  if t.isEmpty then .ok (.text [])
  else do
    let names ← keptTags kept
    let fill ← replacement.toText
    .ok (.text (Markup.removeTags ⟨names, fill⟩ t))

/-! ## Entries -/

/-- The parameters of the padding functions. -/
def paddingEntry (name : String) (longest : Nat → Nat) (pad : Text → Int → Text → Text) : Entry :=
  entry₃ name (optional "length" (.int 0)) (optional "pad_with" (.text [' '])) (padded longest pad)

/-- The parameters of the trimming functions. -/
def trimmingEntry (name : String) (trim : (Char → Bool) → Text → Text) : Entry :=
  entry₂ name (optional "whitespace" .nothing) (trimmed trim)

/-- The parameters of the cutting functions. -/
def cuttingEntry (name : String) (cut : Text → Option Int → Text → Text) : Entry :=
  entry₃ name (optional "length" .nothing) (optional "end" (.text "...".toList)) (shortened cut)

/-- The functions of this module. -/
def layoutEntries : List Entry := [
  ⟨"build_padding", ⟨[required "pattern", required "length"], false⟩,
    .two fun p n => .ofExcept (buildPadding p n)⟩,
  paddingEntry "pad" (fun n => n - n / 2) Text.padBoth,
  paddingEntry "pad_left" id Text.padLeft,
  paddingEntry "pad_right" id Text.padRight,
  entry₂ "repeat" (optional "times" (.int 1)) repeated,
  trimmingEntry "trim" Text.trimBoth,
  trimmingEntry "trim_left" Text.trimStart,
  trimmingEntry "trim_right" Text.trimEnd,
  cuttingEntry "truncate" Text.truncate,
  cuttingEntry "prune" Text.prune,
  ⟨"word_wrap", ⟨[subject, optional "width" (.int 75), optional "new_line" (.text ['\n']),
    optional "indent" (.text []), optional "cut" (.bool false)], false⟩,
    .five fun v w n i c => .ofExcept (wordWrap v w n i c)⟩,
  entry₁ "latinise" (onText fun t => .text t.latinise),
  ⟨"slugify", ⟨[optional "value" .nothing, named "separator" (.text ['-']),
    named "allow_unicode" (.bool false)], false⟩, .three fun v s u => .ofExcept (slugify v s u)⟩,
  entry₁ "escape_html" (onText fun t => .text (Markup.escape t)),
  entry₁ "unescape_html" (onText fun t => .text (Markup.unescape t)),
  entry₁ "escape_reg_exp" (onText fun t => .text (Pattern.escapeText t)),
  entry₃ "strip_tags" (optional "allowable_tags" .nothing) (optional "replacement" (.text []))
    stripTags]

end Textwork.Catalogue
