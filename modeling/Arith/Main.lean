import Arith.CommandLine

/-!
# The program

Runs the command line on the arguments and prints what it answers.
-/

/-- Prints the outcome of the arguments and exits with its status. -/
def main (arguments : List String) : IO UInt32 := do
  let outcome := Arith.CommandLine.run arguments
  (← IO.getStderr).putStr outcome.stderr
  (← IO.getStdout).putStr outcome.stdout
  return outcome.status.toUInt32
