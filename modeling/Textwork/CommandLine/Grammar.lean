/-
  The grammar of command lines: options and operands.

  An argument is an operand, the terminator `--` after which all are operands,
  or an option.  Long options may be shortened as long as one option is meant,
  and may carry their value after `=`; short flags may be written together.
  Negative numbers and arguments with a space are operands.

  * `classify` tells what an argument is under the options of a command;
  * `parse` reads the arguments of a command with one operand and any number of
    further ones; `Parsed` is what it finds.
-/
import Textwork.Number.Numeral

namespace Textwork.CommandLine

/-! ## Options -/

/-- The options. -/
inductive Switch where
  | help
  | verbose
  | floatPrecision
  | integerBits
  deriving DecidableEq, Repr

/-- Whether an option takes a value. -/
def Switch.takesValue : Switch → Bool
  | floatPrecision | integerBits => true
  | _ => false

/-- The options of a command by their names. -/
abbrev Switches := List (Text × Switch)

/-- The options before the command. -/
def generalSwitches : Switches :=
  [("-h".toList, .help), ("--help".toList, .help), ("-v".toList, .verbose),
    ("--verbose".toList, .verbose)]

/-- The options of the command that applies a template. -/
def templateSwitches : Switches :=
  [("-h".toList, .help), ("--help".toList, .help), ("--float-precision".toList, .floatPrecision),
    ("--integer-bits".toList, .integerBits)]

/-- The options of the command that applies functions. -/
def chainSwitches : Switches := [("-h".toList, .help), ("--help".toList, .help)]

/-! ## Classification -/

/-- What an argument is. -/
inductive Token where
  | operand (t : Text)
  | terminator
  /-- an option with the value written after an equals sign -/
  | switch (s : Switch) (value : Option Text)
  /-- a short flag and what is written right behind it -/
  | flags (s : Switch) (more : Text)
  | unknown
  /-- a shortened option that could mean several -/
  | ambiguous
  deriving DecidableEq, Repr

/-- A text before and after its first equals sign. -/
def splitAtEquals (t : Text) : Text × Option Text :=
  match t.dropWhile (· != '=') with
  | [] => (t, none)
  | _ :: value => (t.takeWhile (· != '='), some value)

/-- The options that a text may stand for: those it is short for, and a flag that it begins with. -/
def candidates (known : Switches) (t : Text) : List Token :=
  if "--".toList.isPrefixOf t then
    let (name, value) := splitAtEquals t
    known.filterMap fun (full, s) => if name.isPrefixOf full then some (.switch s value) else none
  else
    known.filterMap fun (full, s) =>
      if full = t.take 2 then some (.flags s (t.drop 2))
      else if t.isPrefixOf full then some (.switch s none)
      else none

/-- A minus sign with digits, or with digits around a point. -/
def isNegativeNumber (t : Text) : Bool :=
  match t with
  | '-' :: body =>
    let body := if body.getLast? = some '\n' then body.dropLast else body
    let rest := body.dropWhile Unicode.isDecimal
    if rest.isEmpty then !body.isEmpty
    else match rest with
      | '.' :: digits => !digits.isEmpty && digits.all Unicode.isDecimal
      | _ => false
  | _ => false

/-- What an argument is under the given options. -/
def classify (known : Switches) (t : Text) : Token :=
  if t.head? != some '-' || t.length = 1 then .operand t
  else
    match known.lookup t with
    | some s => .switch s none
    | none =>
      let (name, value) := splitAtEquals t
      match value.bind fun _ => known.lookup name with
      | some s => .switch s value
      | none =>
        match candidates known t with
        | [token] => token
        | _ :: _ => .ambiguous
        | [] => if isNegativeNumber t || t.elem ' ' then .operand t else .unknown

/-- What each argument is; after a terminator all are operands. -/
def tokens (known : Switches) : List Text → List Token
  | [] => []
  | t :: rest =>
    if t = "--".toList then .terminator :: rest.map .operand
    else classify known t :: tokens known rest

/-! ## Values of options -/

/-- How the reading of a command line ends when it does not succeed: help was asked for, or the
    arguments are wrong. -/
inductive Stop where
  | help
  | misuse
  deriving DecidableEq, Repr

/-- The flags written right behind a flag, and whether they end in something that is no flag, which
    is left over.  Neither a sign of an option nor an equals sign may stand among them. -/
def joinedFlags (known : Switches) : Text → Except Stop (List Switch × Bool)
  | [] => .ok ([], false)
  | c :: more =>
    if c = '-' || c = '=' then .error .misuse
    else
      match known.lookup ['-', c] with
      | some s => (joinedFlags known more).map fun (switches, left) => (s :: switches, left)
      | none => .ok ([], true)

/-- The flags of one argument, and whether some of it is left over; help ends the reading. -/
def readFlags (known : Switches) (s : Switch) (more : Text) : Except Stop (List Switch × Bool) := do
  let (switches, left) ← joinedFlags known more
  if (s :: switches).elem .help then .error .help else .ok (s :: switches, left)

/-- A flag of its own: it has no value, and help ends the reading. -/
def readFlag (s : Switch) (value : Option Text) : Except Stop Unit :=
  if value.isSome then .error .misuse
  else if s = .help then .error .help
  else .ok ()

/-! ## Arguments of a command -/

/-- What was found on a command line. -/
structure Parsed where
  /-- the operand that has to be there -/
  operand : Option Text
  operands : List Text
  floatPrecision : Option Int
  integerBits : Option Int
  /-- whether the operands were already taken -/
  taken : Bool
  /-- whether an argument was left over -/
  leftOver : Bool

/-- Nothing found yet. -/
def Parsed.start : Parsed := ⟨none, [], none, none, false, false⟩

/-- An operand or terminator as it is written; nothing for options. -/
def Token.written? : Token → Option Text
  | operand t => some t
  | terminator => some "--".toList
  | _ => none

/-- Whether a token is an operand. -/
def Token.isOperand : Token → Bool
  | operand _ => true
  | _ => false

/-- The operands of a run of operands and terminators: the first with the terminators around it, and
    the others.  Each part loses its first `--`. -/
def splitRun (run : List Token) : Option (Text × List Text) :=
  let leading := run.takeWhile fun t => !t.isOperand
  match run.dropWhile fun t => !t.isOperand with
  | [] => none
  | first :: rest =>
    let around := (leading ++ first :: rest.takeWhile fun t => !t.isOperand).filterMap (·.written?)
    let others := (rest.dropWhile fun t => !t.isOperand).filterMap (·.written?)
    ((around.erase "--".toList).head?).map fun t => (t, others.erase "--".toList)

/-- A run of operands and terminators taken: the first run that holds an operand gives all operands,
    what comes later is left over. -/
def Parsed.takeRun (p : Parsed) (run : List Token) : Parsed :=
  if run.isEmpty then p
  else if p.taken then { p with leftOver := true }
  else
    match splitRun run with
    | some (first, others) => { p with operand := some first, operands := others, taken := true }
    | none => { p with leftOver := true }

/-- The value of an option put in its place. -/
def Parsed.put (p : Parsed) (s : Switch) (value : Text) : Except Stop Parsed :=
  match Numeral.integer? value with
  | none => .error .misuse
  | some n =>
    match s with
    | .floatPrecision => .ok { p with floatPrecision := some n }
    | .integerBits => .ok { p with integerBits := some n }
    | _ => .error .misuse

/-- The arguments of a command read from left to right; `run` are the operands and terminators since
    the last option, latest first. -/
def readTokens (known : Switches) (p : Parsed) (run : List Token) :
    List Token → Except Stop Parsed
  | [] => .ok (p.takeRun run.reverse)
  | .switch s value :: rest => do
    let p := p.takeRun run.reverse
    if s.takesValue then
      match value, rest with
      | some v, rest => do
        let p ← p.put s v
        readTokens known p [] rest
      | none, .operand v :: rest => do
        let p ← p.put s v
        readTokens known p [] rest
      | none, _ => .error .misuse
    else do
      readFlag s value
      readTokens known p [] rest
  | .flags s more :: rest => do
    let (_, left) ← readFlags known s more
    let p := p.takeRun run.reverse
    readTokens known { p with leftOver := p.leftOver || left } [] rest
  | .unknown :: rest => readTokens known { p.takeRun run.reverse with leftOver := true } [] rest
  | .ambiguous :: _ => .error .misuse
  | t :: rest => readTokens known p (t :: run) rest

/-- The arguments of a command; an ambiguous one is reported before any other is looked at. -/
def parse (known : Switches) (args : List Text) : Except Stop Parsed := do
  let ts := tokens known args
  if ts.elem .ambiguous then .error .misuse
  else do
    let p ← readTokens known .start [] ts
    if p.operand.isNone then .error .misuse else .ok p

/-! ## General options -/

/-- The general options before the command: whether notes are wanted, whether an argument was left
    over, the command and its arguments. -/
def readGeneral (verbose leftOver : Bool) : List Text → Except Stop (Bool × Bool × Text × List Text)
  | [] => .error .misuse
  | t :: rest =>
    if t = "--".toList then .error .misuse
    else
      match classify generalSwitches t with
      | .switch s value => do
        readFlag s value
        readGeneral (verbose || s = .verbose) leftOver rest
      | .flags s more => do
        let (switches, left) ← readFlags generalSwitches s more
        readGeneral (verbose || switches.elem .verbose) (leftOver || left) rest
      | .operand command => .ok (verbose, leftOver, command, rest)
      | .unknown => readGeneral verbose true rest
      | _ => .error .misuse

/-- A whole command line up to the arguments of the command. -/
def readCommand (args : List Text) : Except Stop (Bool × Bool × Text × List Text) :=
  if (tokens generalSwitches args).elem .ambiguous then .error .misuse
  else readGeneral false false args

end Textwork.CommandLine
