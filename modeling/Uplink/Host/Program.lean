import Uplink.ErrorChain
import Uplink.Log
import Uplink.Text.Blank
import Uplink.Text.Utf8

/-!
# Programs of the host

The host is configured by running programs. A program may fail to start, or end with a status and
something written on its error output.

## Main definitions

- `Invocation`: a program and its arguments.
- `Outcome`: how running it ends, `Outcome.fault?` being the error of all but success.
- `Shell`: what starts programs; every history of outcomes is one of a shell.
- `Shell.runAll`: runs programs one after the other, up to the first that fails.
-/

namespace Uplink.Host

/-- A program and its arguments. -/
structure Invocation where
  program : String
  arguments : List String
  deriving DecidableEq, Repr

/-- How running a program ends. -/
inductive Outcome where
  /-- It could not be started. -/
  | notStarted (reason : String)
  /-- It ended with a status and this error output. -/
  | exited (status : UInt8) (errors : List UInt8)
  deriving DecidableEq, Repr

namespace Invocation

/-- What is logged before a program is run. -/
def announcement (i : Invocation) : Log.Line :=
  ⟨.debug, s!"running {i.program} " ++ String.intercalate " " i.arguments⟩

/-- An argument that holds a zero character cannot be handed to a program. -/
def isPassable (i : Invocation) : Bool :=
  i.arguments.all fun a => !a.toList.contains (Char.ofNat 0)

end Invocation

/-- The error of a program that did not succeed. -/
def Outcome.fault? (i : Invocation) : Outcome → Option ErrorChain
  | .notStarted reason => some (.wrap s!"failed to run {i.program}" (.ofMessage reason))
  | .exited status errors =>
    if status = 0 then none
    else
      let said := String.ofList (Text.trim (Text.Utf8.decodeLossy errors).toList)
      some (.ofMessage s!"{i.program} exited with exit status: {status.toNat}: {said}")

/-- What starts programs, with a state of its own. -/
structure Shell (S : Type) where
  run : S → Invocation → S × Outcome

/-- What came of a list of programs: the state of the shell, the programs that were tried, and the
error of the last one, if it failed. -/
structure Run (S : Type) where
  state : S
  tried : List Invocation
  result : Except ErrorChain Unit

/-- Runs programs one after the other, up to the first that fails. -/
def Shell.runAll {S : Type} (shell : Shell S) (s : S) : List Invocation → Run S
  | [] => ⟨s, [], .ok ()⟩
  | i :: rest =>
    let (s, outcome) := shell.run s i
    match outcome.fault? i with
    | some e => ⟨s, [i], .error e⟩
    | none =>
      let run := shell.runAll s rest
      { run with tried := i :: run.tried }

end Uplink.Host
