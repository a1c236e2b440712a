import PatternMatcher.CommandLine.Run

/-!
# The program

Everything that touches the world: the standard input is read if the run looks
at it, and the output of the run is written.
-/

open PatternMatcher

def main (arguments : List String) : IO UInt32 := do
  let output ← match Options.ofArguments arguments with
    | .error notice => pure notice.output
    | .ok options =>
        let stdin ← if options.readsInput then (← IO.getStdin).readBinToEnd else pure .empty
        pure (options.run stdin)
  (← IO.getStdout).putStr output.stdout
  (← IO.getStderr).putStr output.stderr
  return output.exitCode.toUInt32
