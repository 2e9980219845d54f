import JsonQuery.CommandLine

/-!
# The program

Runs the command line on the arguments of the process; standard input is read only if they hold a
query.
-/

namespace JsonQuery.CommandLine

/-- Prints an outcome and returns its code. -/
def report (outcome : Outcome) : IO UInt32 := do
  (← IO.getStdout).putStr outcome.stdout
  (← IO.getStderr).putStr outcome.stderr
  return outcome.code.toUInt32

/-- Answers the arguments, reading the input when it is needed. -/
def execute (args : List String) : IO UInt32 :=
  match query .plain args with
  | .error outcome => report outcome
  | .ok q => do report (answer .plain q (← (← IO.getStdin).readBinToEnd))

end JsonQuery.CommandLine

/-- Runs the command line. -/
def main (args : List String) : IO UInt32 := JsonQuery.CommandLine.execute args
