/-
  The catalogue: all functions that can be called by name.

  * `numberEntries` are the functions that read numbers and the coercions of
    values;
  * `formatting` are the two functions that apply templates, under given
    defaults;
  * `functions` are those that a chain offers, `all` adds the ones that read
    numbers;
  * `call` calls a function by name.
-/
import Textwork.Catalogue.Letters
import Textwork.Catalogue.Positions
import Textwork.Catalogue.Layout
import Textwork.Catalogue.Matching
import Textwork.Directive.Formatting
import Textwork.Value.Comparison
import Textwork.Value.Numbers

namespace Textwork.Catalogue

/-! ## Numbers -/

/-- A value as a text, a default standing for nothing. -/
def coerceToString (v default : Value) : Except Fault Value :=
  match v with
  | .nothing => .ok default
  | v => v.display.map .text

/-- A value as an integer, a default standing for what is none. -/
def coerceToInt (v default : Value) : Except Fault Value :=
  match v with
  | .float (.infinite _) => .ok default
  | v => v.toInt?.map fun n => (n.map .int).getD default

/-- A value, or the bound that it passes. -/
def clip (v lower upper : Value) : Except Fault Value := do
  if ← v.less lower then .ok lower
  else
    match upper with
    | .nothing => .ok v
    | upper => do
      if ← upper.less v then .ok upper else .ok v

/-- The functions that a chain does not offer. -/
def numberEntries : List Entry := [
  ⟨"parse_int", ⟨[required "value"], false⟩, .one fun v => do
    let n ← v.leadingInt
    pure (.int n)⟩,
  ⟨"parse_float", ⟨[required "value"], false⟩, .one fun v => do
    let x ← v.leadingFloat
    pure (.float x)⟩,
  ⟨"coerce_to_string", ⟨[required "value", optional "default" (.text [])], false⟩,
    .two fun v d => .ofExcept (coerceToString v d)⟩,
  ⟨"coerce_to_int", ⟨[required "value", optional "default" (.int 0)], false⟩,
    .two fun v d => .ofExcept (coerceToInt v d)⟩,
  ⟨"clip", ⟨[required "value", required "lower", optional "upper" .nothing], false⟩,
    .three fun v l u => .ofExcept (clip v l u)⟩]

/-! ## All functions -/

/-- The functions that apply templates. -/
def formatting (d : Defaults) : List Entry := [
  ⟨"sprintf", ⟨[optional "template" .nothing], true⟩, .rest fun t args =>
    .text <$> Directive.formatArguments d t args⟩,
  ⟨"vprintf", ⟨[optional "template" .nothing, optional "replacements" .nothing], false⟩,
    .two fun t args => .text <$> Directive.formatValue d t args⟩]

/-- The functions that a chain offers. -/
def functions : List Entry :=
  letterEntries ++ positionEntries ++ layoutEntries ++ matchingEntries ++
    [entry₁ "is_numeric" fun v => v.isNumeric.map .bool] ++ formatting Settings.standard.defaults

/-- All functions. -/
def all : List Entry := functions ++ numberEntries

/-- The function of a name. -/
def find? (entries : List Entry) (name : Text) : Option Entry :=
  entries.find? fun e => e.name.toList == name

/-- A call of a function of a list by name. -/
def callIn (entries : List Entry) (name : Text) (args : List Value)
    (byName : List (Text × Value)) : Traced Value :=
  match find? entries name with
  | some e => e.call args byName
  | none => Traced.fail (.noFunction name)

/-- A call of a function by name. -/
def call (name : Text) (args : List Value) (byName : List (Text × Value)) : Traced Value :=
  callIn all name args byName

end Textwork.Catalogue
