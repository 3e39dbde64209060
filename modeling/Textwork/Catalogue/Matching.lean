/-
  Functions that take patterns: a pattern is given as it is, or as its text.
-/
import Textwork.Catalogue.Signature
import Textwork.Pattern.Template
import Textwork.Text.Casing
import Textwork.Text.Search
import Textwork.Value.Comparison
import Textwork.Value.Numbers

namespace Textwork.Catalogue

/-! ## Patterns -/

/-- Options given as a number. -/
def flagNumber : Value → Except Fault Int
  | .int n => .ok n
  | .bool b => .ok (if b then 1 else 0)
  | _ => .error .wrongKind

/-- The pattern of a value that is a pattern, or the text of one as any value. -/
def patternOf (v flags : Value) : Except Fault Pattern :=
  match v with
  | .pattern p => .ok p
  | v => do
    let source ← v.toText
    let n ← flagNumber flags
    Pattern.compileWith? source n

/-- The position of the first match from a position on, or `-1`.  A position outside the text has
    none, whatever the pattern. -/
def search (v pattern start : Value) : Except Fault Value := do
  let t ← v.toText
  let i ← start.toIntOr 0
  if i < 0 ∨ (t.length : Int) < i then .ok (.int (-1))
  else do
    let p ← patternOf pattern (.int 0)
    .ok (.int (Text.orMinusOne ((p.search? t i.toNat).map (·.start))))

/-- Whether a pattern matches somewhere. -/
def matchesSomewhere (v pattern flags : Value) : Except Fault Value :=
  match pattern with
  | .nothing => .ok (.bool false)
  | pattern => do
    let p ← patternOf pattern flags
    let t ← v.toText
    .ok (.bool (p.search? t 0).isSome)

/-- Bytes as the characters of the same codes. -/
def singleBytes (b : List UInt8) : Text := b.map fun x => Char.ofNat x.toNat

/-- The words of a text, or the matches of a pattern, which has to be one or a text.  Bytes are read
    as a pattern before they are refused. -/
def words (v pattern flags : Value) : Except Fault (List Text) := do
  let t ← v.toText
  match pattern with
  | .nothing => .ok t.words
  | .pattern p => .ok (p.found t)
  | .text source => do
    let n ← flagNumber flags
    let p ← Pattern.compileWith? source n
    .ok (p.found t)
  | .bytes b => do
    let n ← flagNumber flags
    let _ ← Pattern.compileWith? (singleBytes b) n
    .error .wrongKind
  | _ => .error .wrongKind

/-! ## Splitting -/

/-- The number of parts that a limit allows, which may not be a fraction. -/
def partLimit (v : Value) : Except Fault (Option Nat) :=
  match v with
  | .nothing => .ok none
  | .int n => .ok (some n.toNat)
  | .bool b => .ok (some (if b then 1 else 0))
  | v => do
    if ← v.less (.int 0) then .ok (some 0) else .error .wrongKind

/-- The parts of a text between separators. -/
def split (v separator limit : Value) : Except Fault Value := do
  let t ← v.toText
  let parts : List Value ← match separator with
    | .nothing => .ok [.text t]
    | .pattern p => .ok ((p.split t).map fun part => (part.map .text).getD .nothing)
    | .text [] => .ok (t.map fun c => .text [c])
    | .text s => .ok ((Text.pieces s t).map .text)
    | _ => .error .wrongKind
  match ← partLimit limit with
  | none => .ok (.list parts)
  | some n => .ok (.list (parts.take n))

/-! ## Replacing -/

/-- A text with matches of a pattern replaced by a template or by what a callback gives.  Bytes are
    refused at the first match. -/
def substituted (p : Pattern) (t : Text) (onlyFirst : Bool) (replacement : Value) :
    Except Fault Text :=
  match replacement with
  | .text template => do
    let parts ← p.template? template
    p.substitute t onlyFirst fun m => .ok (Pattern.expand parts t m)
  | .callback c => p.substitute t onlyFirst (c.replacement t)
  | .bytes b => do
    let _ ← p.template? (singleBytes b)
    p.substitute t onlyFirst fun _ => .error .wrongKind
  | _ => .error .wrongKind

/-- A text with the first occurrence of a needle or match of a pattern replaced, or all of them. -/
def replaced (onlyFirst : Bool) (v pattern replacement : Value) : Except Fault Value := do
  let t ← v.toText
  match pattern with
  | .pattern p => (substituted p t onlyFirst replacement).map .text
  | pattern => do
    let needle ← pattern.toText
    if onlyFirst then do
      let r ← replacement.toText
      .ok (.text (Text.replaceFirst needle r t))
    else if needle.isEmpty then .ok (.text t)
    else do
      let r ← replacement.toText
      .ok (.text (Text.replaceAll needle r t))

/-! ## Entries -/

/-- The functions of this module. -/
def matchingEntries : List Entry := [
  entry₃ "search" (optional "pattern" (.text [])) (optional "from_index" (.int 0)) search,
  entry₃ "matches" (optional "pattern" .nothing) (optional "flags" (.int 0)) matchesSomewhere,
  entry₃ "words" (optional "pattern" .nothing) (optional "flags" (.int 0)) fun v p f =>
    (words v p f).map .ofTexts,
  entry₃ "count_words" (optional "pattern" .nothing) (optional "flags" (.int 0)) fun v p f =>
    (words v p f).map fun ws => .int ws.length,
  entry₃ "split" (optional "separator" .nothing) (optional "limit" .nothing) split,
  entry₃ "replace" (optional "pattern" (.text [])) (optional "replacement" (.text []))
    (replaced true),
  entry₃ "replace_all" (optional "pattern" (.text [])) (optional "replacement" (.text []))
    (replaced false)]

end Textwork.Catalogue
