import Uplink.Interface

/-!
# The interfaces of a machine

An interface as the machine itself shows it: flags, whether it has a hardware address, and all its
networks. What kind of interface it is follows from the flags and two probes of its hardware.

## Main definitions

- `MachineInterface`: an interface as the machine shows it.
- `Probes`: what can be found out about the hardware behind an interface.
- `MachineInterface.classify`, `MachineInterface.toInterface`: its kind, and all that is reported
  of it.
- `snapshot`: all interfaces of a machine, those that are up first.
-/

namespace Uplink.Host

/-- A network that an interface belongs to, by the interface's own address. -/
inductive MachineAddress where
  | v4 (octets : Quad)
  | v6
  deriving DecidableEq, Repr

/-- An interface as the machine shows it. -/
structure MachineInterface where
  name : String
  flags : UInt32
  /-- Whether it has a hardware address. -/
  hasHardwareAddress : Bool
  addresses : List MachineAddress
  deriving DecidableEq, Repr

/-- What can be found out about the hardware behind an interface. -/
structure Probes where
  isPhysical : MachineInterface → Bool
  isWireless : MachineInterface → Bool

/-- The probes of a machine that shows no hardware. -/
def Probes.blind : Probes := ⟨fun _ => false, fun _ => false⟩

namespace MachineInterface

/-- Whether one of the flags of a mask is set. -/
def hasFlag (i : MachineInterface) (mask : UInt32) : Bool := i.flags &&& mask != 0

/-- The interface is up. -/
def isUp (i : MachineInterface) : Bool := i.hasFlag 0x1

/-- The interface can broadcast. -/
def isBroadcast (i : MachineInterface) : Bool := i.hasFlag 0x2

/-- The interface leads back to the machine. -/
def isLoopback (i : MachineInterface) : Bool := i.hasFlag 0x8

/-- The interface leads to a single peer. -/
def isPointToPoint (i : MachineInterface) : Bool := i.hasFlag 0x10

/-- The kind of an interface. Only hardware that can broadcast is Ethernet; tunnels and whatever has
no hardware address are of no known kind. -/
def classify (p : Probes) (i : MachineInterface) : InterfaceKind :=
  if i.isLoopback then .loopback
  else if i.isPointToPoint || !i.hasHardwareAddress then .unknown
  else if p.isWireless i then .wifi
  else if i.isBroadcast && p.isPhysical i then .ethernet
  else .unknown

/-- The first IPv4 address of an interface, or the zero address. -/
def firstAddress (i : MachineInterface) : Address :=
  let found := i.addresses.findSome? fun
    | .v4 octets => some (Address.ofOctets octets)
    | .v6 => none
  found.getD .any

/-- What is reported of an interface. -/
def toInterface (p : Probes) (dhcp : Bool) (i : MachineInterface) : Interface :=
  { name := i.name, kind := i.classify p, ipv4 := i.firstAddress, dhcp }

end MachineInterface

/-- All interfaces of a machine, those that are up before the others, otherwise in the machine's
order; `dhcp` tells the names whose address was asked for by DHCP. -/
def snapshot (p : Probes) (dhcp : String → Bool) (machine : List MachineInterface) :
    List Interface :=
  (machine.filter (·.isUp) ++ machine.filter (!·.isUp)).map fun i => i.toInterface p (dhcp i.name)

@[simp] theorem length_snapshot (p : Probes) (dhcp : String → Bool)
    (machine : List MachineInterface) : (snapshot p dhcp machine).length = machine.length := by
  induction machine with
  | nil => rfl
  | cons i rest ih =>
    simp only [snapshot, List.length_map, List.length_append] at ih ⊢
    cases h : i.isUp <;> simp [h] <;> omega

end Uplink.Host
