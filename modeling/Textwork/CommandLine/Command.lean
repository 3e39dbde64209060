/-
  The commands of the program.

  `sprintf TEMPLATE ARGUMENT…` applies a template, `chain TEXT FUNCTION…` applies
  functions of the catalogue one after the other.  `run` gives what a command
  line prints and its exit code: 0 for success, 1 for a template that cannot be
  applied, 2 for misuse.
-/
import Textwork.Chain
import Textwork.CommandLine.Grammar

namespace Textwork.CommandLine

/-- What a command line comes to. -/
inductive Outcome where
  /-- the command ran: the exit code and what it printed on its two outputs -/
  | finished (exit : Nat) (output errors : Text)
  /-- the usage is shown, with an exit code -/
  | usage (exit : Nat)
  deriving DecidableEq, Repr

/-! ## Printing -/

/-- Each text on a line of its own. -/
def lines (ts : List Text) : Text := ts.flatMap (· ++ ['\n'])

/-- A value as it is printed: the items of a sequence on lines of their own, any other value with a
    line feed at its end. -/
def printed (v : Value) : Except Fault Text :=
  match v with
  | .list items | .tuple items => (items.mapM Value.display).map lines
  | v => do
    let t ← v.toText
    .ok (if t.getLast? = some '\n' then t else t ++ ['\n'])

/-- Notes as they are printed, if they are wanted. -/
def printedNotes (verbose : Bool) (notes : List Note) : Except Fault Text :=
  if !verbose then .ok []
  else do
    let ts ← notes.mapM fun n => n.text.map fun t =>
      "DEBUG:".toList ++ n.channel ++ ':' :: t
    .ok (lines ts)

/-- A fault as it is printed. -/
def printedFault (e : Fault) : Text := (e.message.getD []) ++ ['\n']

/-! ## Commands -/

/-- The settings that the options of a command line give. -/
def settingsOf (p : Parsed) : Except Fault Settings :=
  let value (n : Option Int) : Value := (n.map .int).getD .nothing
  Settings.ofEntries [("float_precision".toList, value p.floatPrecision),
    ("integer_bits".toList, value p.integerBits)]

/-- A template applied to texts. -/
def runTemplate (verbose : Bool) (p : Parsed) : Except Fault Outcome := do
  match settingsOf p with
  | .error e => .ok (.finished 2 [] ("error: ".toList ++ printedFault e))
  | .ok settings => do
    let template : Value := .text (p.operand.getD [])
    let traced := Directive.formatArguments settings.defaults template (p.operands.map .text)
    let notes ← printedNotes verbose traced.notes
    match traced.result with
    | .ok t => do
      let out ← printed (.text t)
      .ok (.finished 0 out notes)
    | .error e =>
      if e.isTemplateFault then .ok (.finished 1 [] (notes ++ printedFault e)) else .error e

/-- The functions applied one after the other, each to the result of the one before. -/
def applyAll (v : Value) : List Text → Traced Value
  | [] => pure v
  | name :: rest => do
    let next ← Catalogue.callIn Catalogue.functions name [v] []
    applyAll next rest

/-- Functions applied to a text; unknown names are reported before any is applied. -/
def runChain (verbose : Bool) (p : Parsed) : Except Fault Outcome := do
  let unknown := p.operands.filter fun name =>
    (Catalogue.find? Catalogue.functions name).isNone
  if !unknown.isEmpty then
    .ok (.finished 2 [] ("error: unknown function(s): ".toList ++ Fault.listed unknown ++ ['\n']))
  else do
    let traced := applyAll (.text (p.operand.getD [])) p.operands
    let v ← traced.result
    let notes ← printedNotes verbose traced.notes
    let out ← printed v
    .ok (.finished 0 out notes)

/-- The exit code of a command line that cannot be read to its end. -/
def Stop.outcome : Stop → Outcome
  | help => .usage 0
  | misuse => .usage 2

/-- A command with its arguments. -/
def runParsed (known : Switches) (args : List Text) (leftOver : Bool)
    (command : Parsed → Except Fault Outcome) : Except Fault Outcome :=
  match parse known args with
  | .error s => .ok s.outcome
  | .ok p => if leftOver || p.leftOver then .ok (.usage 2) else command p

/-- What a command line prints, and its exit code. -/
def run (args : List Text) : Except Fault Outcome :=
  match readCommand args with
  | .error s => .ok s.outcome
  | .ok (verbose, leftOver, command, rest) =>
    if command = "sprintf".toList then
      runParsed templateSwitches rest leftOver (runTemplate verbose)
    else if command = "chain".toList then
      runParsed chainSwitches rest leftOver (runChain verbose)
    else .ok (.usage 2)

end Textwork.CommandLine
