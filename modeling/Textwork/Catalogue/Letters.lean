/-
  Functions on letter case, on clusters and words, and tests of characters.
-/
import Textwork.Catalogue.Signature
import Textwork.Text.Casing
import Textwork.Text.Parts
import Textwork.Value.Comparison
import Textwork.Value.Numbers

namespace Textwork.Catalogue

/-! ## Title case -/

/-- Whether title casing a text asks what joins words: some letter follows a character other than a
    letter.  `previous` is what was written for the character before. -/
def asksJoining (previous : Text) : Text → Bool
  | [] => false
  | c :: rest =>
    if Unicode.isLetter c then
      if previous.isEmpty then asksJoining (Text.upper [c]) rest
      else !Text.isAlphabetic previous || asksJoining (Text.lower [c]) rest
    else asksJoining [c] rest

/-- Title case with joining characters that can be walked through once: those passed on the way to
    one of them are not looked at again.  `previous` is what was written for the character
    before. -/
def titleOnce (items : List Value) (previous : Text) : Text → Text
  | [] => []
  | c :: rest =>
    if !Unicode.isLetter c then c :: titleOnce items [c] rest
    else if Text.isAlphabetic previous then
      Text.lower [c] ++ titleOnce items (Text.lower [c]) rest
    else if previous.isEmpty then Text.upper [c] ++ titleOnce items (Text.upper [c]) rest
    else
      match items.dropWhile fun v => !v.same (.text previous) with
      | [] => Text.upper [c] ++ titleOnce [] (Text.upper [c]) rest
      | _ :: later => Text.lower [c] ++ titleOnce later (Text.lower [c]) rest

/-- Title case; what joins words is a text of such characters, or a sequence of them. -/
def titleCase (v joining : Value) : Except Fault Value := do
  let t ← v.toText
  match joining with
  | .text j => .ok (.text (t.title j))
  | .list items | .tuple items => .ok (.text (among items t))
  | .iterator items => .ok (.text (titleOnce items [] t))
  | .dict entries => .ok (.text (among (entries.map Prod.fst) t))
  | _ => if asksJoining [] t then .error .wrongKind else .ok (.text (t.title []))
where
  /-- Title case with a sequence of characters that join words. -/
  among (items : List Value) (t : Text) : Text :=
    Text.titleFrom (fun previous => !Text.isAlphabetic previous &&
      (previous.isEmpty || !items.any fun v => v.same (.text previous))) [] t

/-! ## Tests -/

/-- A test of a text that is not empty and whose characters are all of one class. -/
def allOf (p : Char → Bool) (t : Text) : Value := .bool (!t.isEmpty && t.all p)

/-- The number of characters for which a callback is true. -/
def countWhere (v predicate : Value) : Except Fault Value :=
  match predicate with
  | .nothing => .ok (.int 0)
  | .callback c => do
    let t ← v.toText
    let n ← countFrom c t 0 t
    .ok (.int n)
  | _ => .error .predicateNotCallable
where
  /-- The count among the characters of a text from index `i` on. -/
  countFrom (f : Callback) (whole : Text) (i : Nat) : Text → Except Fault Nat
    | [] => .ok 0
    | c :: rest => do
      let holds ← f.test c i whole
      let n ← countFrom f whole (i + 1) rest
      .ok (if holds then n + 1 else n)

/-! ## Entries -/

/-- The functions of this module. -/
def letterEntries : List Entry := [
  entry₁ "camel_case" (onText fun t => .text t.camel),
  entry₁ "kebab_case" (onText fun t => .text t.kebab),
  entry₁ "snake_case" (onText fun t => .text t.snake),
  entry₂ "title_case" (optional "no_split" (.text [])) titleCase,
  entry₂ "capitalize" (optional "rest_to_lower" (.bool false)) fun v restToLower =>
    onText (fun t => .text (t.capitalized restToLower.isTrue)) v,
  entry₁ "decapitalize" (onText fun t => .text t.decapitalized),
  entry₁ "lower_case" (onText fun t => .text t.lower),
  entry₁ "upper_case" (onText fun t => .text t.upper),
  entry₁ "swap_case" (onText fun t => .text t.swapped),
  entry₁ "is_empty" (onText fun t => .bool t.isEmpty),
  entry₁ "is_blank" (onText fun t => .bool (t.all Unicode.isBlank)),
  entry₁ "is_alpha" (onText fun t => .bool t.isAlphabetic),
  entry₁ "is_alpha_digit" (onText (allOf Unicode.isAlphanumeric)),
  entry₁ "is_digit" (onText (allOf Unicode.isDecimal)),
  entry₁ "is_lower_case" (onText fun t => .bool t.isLower),
  entry₁ "is_upper_case" (onText fun t => .bool t.isUpper),
  ⟨"is_string", ⟨[required "value"], false⟩, .one fun v => pure (.bool (v matches .text _))⟩,
  entry₁ "chars" (onText fun t => .ofTexts (t.map ([·]))),
  entry₁ "code_points" (onText fun t => .list (t.map fun c => .int c.toNat)),
  entry₁ "graphemes" (onText fun t => .ofTexts t.clusters),
  entry₁ "iter_graphemes" (onText fun t => .iterator (t.clusters.map .text)),
  entry₁ "reverse" (onText fun t => .text t.reverse),
  entry₁ "reverse_grapheme" (onText fun t => .text t.reverseClusters),
  entry₁ "count" (onText fun t => .int t.length),
  entry₁ "count_graphemes" (onText fun t => .int t.clusters.length),
  entry₂ "count_where" (optional "predicate" .nothing) countWhere]

end Textwork.Catalogue
