/-
  The program: a command line is run, its two outputs are written, and its exit
  code is returned.
-/
import Textwork.CommandLine.Command

open Textwork

/-- The usage of the program. -/
def usageText : String :=
  "usage: textwork [-h] [-v] sprintf TEMPLATE [ARGUMENT ...]\n" ++
  "                [--float-precision N] [--integer-bits N]\n" ++
  "       textwork [-h] [-v] chain TEXT [FUNCTION ...]\n"

/-- Runs the command line. -/
def main (args : List String) : IO UInt32 := do
  let out ← IO.getStdout
  let err ← IO.getStderr
  match CommandLine.run (args.map Text.ofString) with
  | .ok (.finished exit output errors) => do
    err.putStr (Text.toString errors)
    out.putStr (Text.toString output)
    pure exit.toUInt32
  | .ok (.usage exit) => do
    (if exit = 0 then out else err).putStr usageText
    pure exit.toUInt32
  | .error e => do
    err.putStr ("error: " ++ Text.toString (e.message.getD "the call failed".toList) ++ "\n")
    pure 1
