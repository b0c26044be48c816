import Uplink.ErrorChain
import Uplink.Interface
import Uplink.IpConfiguration.Basic

/-!
# What can go wrong in a setup

A misuse or a missing interface is an error that the caller gets. Everything else is a fault: it is
kept by the coordinator, with the step that failed and the error of that step.

## Main definitions

- `SetupError`: the errors that a caller gets.
- `Fault`: the faults that are kept, by the step that failed; `Fault.chain` is their wording.
-/

namespace Uplink.Readiness

/-- The errors that a setup returns to its caller. -/
inductive SetupError where
  /-- The coordinator was set up before. -/
  | alreadySetUp
  /-- There is no interface of the target kind among those found. -/
  | noInterface (target : InterfaceKind) (found : Nat)
  deriving DecidableEq, Repr

/-- The wording of an error. -/
def SetupError.message : SetupError → String
  | alreadySetUp =>
    "network setup was already requested on this coordinator; " ++
      "call reset() before setting it up again"
  | noInterface target found =>
    s!"no {target.text} interface available ({found} interface(s) present)"

/-- The step of a setup that failed, with the error it met. -/
inductive Fault where
  /-- The first look at the interfaces. -/
  | listing (cause : ErrorChain)
  /-- Subscribing to address changes. -/
  | subscribing (cause : ErrorChain)
  /-- Assigning a static address. -/
  | staticAddress (configuration : IpConfiguration) (interface : String) (cause : ErrorChain)
  /-- Asking for an address by DHCP. -/
  | dhcp (interface : String) (cause : ErrorChain)
  /-- Setting the name servers. -/
  | servers (interface : String) (cause : ErrorChain)
  /-- Starting the worker. -/
  | starting (cause : ErrorChain)
  /-- A look at the interfaces while waiting for the address. -/
  | looking (cause : ErrorChain)
  /-- The subscription ended before the address came. -/
  | closed (target : InterfaceKind)
  deriving DecidableEq, Repr

/-- The wording of a fault, with the error of the failing step innermost. -/
def Fault.chain : Fault → ErrorChain
  | listing cause => .wrap "failed to list network interfaces" cause
  | subscribing cause => .wrap "failed to subscribe to address changes" cause
  | staticAddress configuration interface cause =>
    .wrap s!"failed to apply {configuration.text} to {interface}" cause
  | dhcp interface cause => .wrap s!"failed to enable DHCP on {interface}" cause
  | servers interface cause => .wrap s!"failed to configure DNS on {interface}" cause
  | starting cause => .wrap "failed to start the readiness worker" cause
  | looking cause => cause
  | closed target =>
    .ofMessage <| "address-change subscription closed before the " ++
      s!"{target.text} interface got an address"

end Uplink.Readiness
