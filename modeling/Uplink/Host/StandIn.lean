import Uplink.Host.Network
import Uplink.IpConfiguration.Mask

/-!
# Stand-ins

Programs that only record what they are called with, and end as a script says: some do not exist,
and some calls fail. Prefixes are found by counting ones.

## Main definitions

- `Script`: the programs that are missing and the calls that fail.
- `StandIns`: a script and the calls so far.
- `StandIns.shell`: stand-ins as a shell.
- `StandIns.finder`: what stands in for the finder of prefixes.
-/

namespace Uplink.Host

/-- The `count`-th call of a program, counted from one, fails with a status and an error output. -/
structure FailingCall where
  program : String
  count : Nat
  status : UInt8
  errors : List UInt8
  deriving DecidableEq, Repr

/-- What is not to succeed. -/
structure Script where
  missing : List String := []
  failing : List FailingCall := []
  deriving DecidableEq, Repr

/-- A script and the calls so far. -/
structure StandIns where
  script : Script := {}
  calls : List Invocation := []
  deriving DecidableEq, Repr

namespace StandIns

/-- How a started call ends. -/
def outcome (s : Script) (program : String) (count : Nat) : Outcome :=
  match s.failing.find? fun f => f.program == program && f.count == count with
  | some f => .exited f.status f.errors
  | none => .exited 0 []

/-- Calls a stand-in. The arguments are looked at before the program is. -/
def call (s : StandIns) (i : Invocation) : StandIns × Outcome :=
  if !i.isPassable then (s, .notStarted "nul byte found in provided data")
  else if s.script.missing.contains i.program then
    (s, .notStarted "No such file or directory (os error 2)")
  else
    let calls := s.calls ++ [i]
    let count := (calls.filter fun c => c.program == i.program).length
    ({ s with calls }, outcome s.script i.program count)

/-- Stand-ins as a shell. -/
def shell : Shell StandIns := ⟨call⟩

/-- The ones in front of a mask are counted, if zeros are all the rest. -/
def finder : PrefixFinder := fun mask =>
  match Mask.prefixLength? (.ofOctets mask) with
  | some length => .ok length
  | none => .error "invalid prefix"

end StandIns

end Uplink.Host
