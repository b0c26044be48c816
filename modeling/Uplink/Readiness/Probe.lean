import Uplink.Interface

/-!
# The address that is waited for

## Main definitions

- `Probe.accepts`: an address that ends the wait.
- `Probe.satisfiedBy`, `Probe.isMatch`: a list of interfaces and an address change that show one.
-/

namespace Uplink.Readiness

/-- What the wait for an address looks for: a kind of interface and, where a static configuration
was asked for, its address. -/
structure Probe where
  target : InterfaceKind
  desired : Option Address
  deriving DecidableEq, Repr

namespace Probe

/-- An address that ends the wait: not zero, and the desired one if there is one. -/
def accepts (p : Probe) (a : Address) : Bool :=
  !a.isAny && (match p.desired with
    | some desired => desired == a
    | none => true)

/-- The first interface of the target kind. -/
def pick? (target : InterfaceKind) (interfaces : List Interface) : Option Interface :=
  interfaces.find? fun i => i.kind == target

/-- Whether the first interface of the target kind has an address that ends the wait. -/
def satisfiedBy (p : Probe) (interfaces : List Interface) : Bool :=
  match pick? p.target interfaces with
  | some i => p.accepts i.ipv4
  | none => false

/-- Whether an address change ends the wait. -/
def isMatch (p : Probe) (c : AddressChange) : Bool :=
  c.kind == p.target && p.accepts c.ipv4

end Probe

end Uplink.Readiness
