/-
  The settings of a formatter: the precision of numbers without one, the word
  size of unsigned integers, and the fill of directives without one.

  * `Settings` are valid by construction; `Settings.ofEntries` reads them from a
    table of values;
  * `Options` are settings given as they are, checked by `Options.check` but not
    converted;
  * `Defaults` is what a directive looks up: a setting of the wrong kind fails
    only when it is looked up.
-/
import Textwork.Value.Comparison
import Textwork.Value.Numbers

namespace Textwork

/-- What a directive without a precision, a fill or a word size falls back to. -/
structure Defaults where
  precision : Except Fault Nat
  integerBits : Except Fault Nat
  padding : Text

/-- Valid settings. -/
structure Settings where
  floatPrecision : Nat
  integerBits : Nat
  padding : Char
  integerBits_pos : 0 < integerBits

namespace Settings

/-- Six digits, 32 bits and a space. -/
def standard : Settings := ⟨6, 32, ' ', by decide⟩

/-- The largest unsigned integer of the word size. -/
def integerMask (s : Settings) : Nat := Nat.pow 2 s.integerBits - 1

end Settings

/-- The names of the settings. -/
def settingNames : List Text :=
  ["float_precision".toList, "integer_bits".toList, "padding".toList]

/-- The greatest size of words that can be addressed: they are held in digits of 30 bits, each taking
    four bytes. -/
def maxWordSize : Nat := 30 * (Nat.pow 2 61 - 8)

/-- A word size, refused if words of that size cannot be addressed. -/
def wordSize (bits : Nat) : Except Fault Nat :=
  if maxWordSize < bits then .error .tooLarge else .ok bits

/-- Settings as they are given. -/
structure Options where
  floatPrecision : Value
  integerBits : Value
  padding : Value

namespace Options

/-- The options of the standard settings. -/
def standard : Options := ⟨.int 6, .int 32, .text [' ']⟩

/-- The number of members of a value that has a length. -/
def length? : Value → Except Fault Nat
  | .text t => .ok t.length
  | .list items | .tuple items => .ok items.length
  | .dict entries => .ok entries.length
  | .bytes b => .ok b.length
  | _ => .error .wrongKind

/-- The rules that options have to meet, in the order in which they are checked. -/
def check (o : Options) : Except Fault Unit := do
  if ← o.floatPrecision.less (.int 0) then .error .negativePrecision
  let negative ← o.integerBits.less (.int 0)
  if negative || o.integerBits.same (.int 0) then .error .noIntegerBits
  let n ← length? o.padding
  if n != 1 then .error .paddingLength

/-- Options with one of them replaced. -/
def put (o : Options) (name : Text) (v : Value) : Except Fault Options :=
  if name = "float_precision".toList then .ok { o with floatPrecision := v }
  else if name = "integer_bits".toList then .ok { o with integerBits := v }
  else if name = "padding".toList then .ok { o with padding := v }
  else .error .wrongKind

/-- The options given by name, checked. -/
def ofEntries (entries : List (Text × Value)) : Except Fault Options := do
  let o ← entries.foldlM (fun o (name, v) => o.put name v) standard
  check o
  .ok o

/-- An integer or a truth value as a number of things. -/
def countOf : Value → Except Fault Nat
  | .int n => .ok n.toNat
  | .bool b => .ok (if b then 1 else 0)
  | _ => .error .wrongKind

/-- The word size. -/
def bits (o : Options) : Except Fault Nat := do
  let n ← countOf o.integerBits
  wordSize n

/-- The largest unsigned integer of the word size. -/
def integerMask (o : Options) : Except Fault Nat := o.bits.map fun n => Nat.pow 2 n - 1

/-- The options as directives look them up. -/
def defaults (o : Options) : Defaults :=
  ⟨countOf o.floatPrecision, o.bits,
    ((o.padding.textOr [' ']).toOption).getD []⟩

end Options

namespace Settings

/-- The settings as directives look them up. -/
def defaults (s : Settings) : Defaults :=
  ⟨.ok s.floatPrecision, wordSize s.integerBits, [s.padding]⟩

/-- The settings as options. -/
def options (s : Settings) : Options :=
  ⟨.int s.floatPrecision, .int s.integerBits, .text [s.padding]⟩

/-- A number given for a setting. -/
def readNumber (name : Text) (v : Value) : Except Fault Int := do
  match ← v.toInt? with
  | some n => .ok n
  | none => do
    let shown ← v.shown
    .error (.notAnInteger (Text.toString name) shown)

/-- Options with one of them read from a value; nothing leaves the option as it is. -/
def readOption (o : Options) (name : Text) (v : Value) : Except Fault Options :=
  match v with
  | .nothing => .ok o
  | v =>
    if name = "padding".toList then do
      let t ← v.display
      o.put name (.text t)
    else do
      let n ← readNumber name v
      o.put name (.int n)

/-- The settings with the given numbers and fill, checked in order. -/
def make (precision bits : Int) (padding : Text) : Except Fault Settings :=
  if precision < 0 then .error .negativePrecision
  else if h : 0 < bits.toNat then
    match padding with
    | [c] => .ok ⟨precision.toNat, bits.toNat, c, h⟩
    | _ => .error .paddingLength
  else .error .noIntegerBits

/-- The settings that options of the right kinds amount to. -/
def ofOptions (o : Options) : Except Fault Settings :=
  match o.floatPrecision, o.integerBits, o.padding with
  | .int precision, .int bits, .text padding => make precision bits padding
  | _, _, _ => .error .wrongKind

/-- The settings given by name as values of any kind: numbers may be texts, and nothing stands for
    the standard setting.  Unknown names are refused before any value is read. -/
def ofEntries (entries : List (Text × Value)) : Except Fault Settings := do
  let unknown := (entries.map Prod.fst).filter fun name => !settingNames.elem name
  if !unknown.isEmpty then
    .error (.unknownOptions (unknown.mergeSort fun a b => !Value.textLess b a))
  else do
    let o ← entries.foldlM (fun o (name, v) => readOption o name v) Options.standard
    ofOptions o

end Settings

end Textwork
