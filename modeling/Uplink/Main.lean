import Uplink.Cli.Session

/-!
# The program

The command line runs on a host whose machine has nothing but a loopback interface, and whose
configuration programs are stand-ins that always succeed.
-/

namespace Uplink.Cli

/-- A host whose machine has nothing but a loopback interface. -/
def Surroundings.bare : Surroundings where
  frames := [[⟨"lo", 0x9, true, [.v4 ⟨127, 0, 0, 1⟩]⟩]]
  year := 2025

end Uplink.Cli

/-- Runs the program with the arguments of the process. The environment may set a log
filter. -/
def main (arguments : List String) : IO UInt32 := do
  let setting ← IO.getEnv "RUST_LOG"
  let output := Uplink.Cli.Session.run .bare setting arguments
  (← IO.getStdout).putStr output.stdout
  (← IO.getStderr).putStr output.stderr
  return output.code
