import Uplink.Interface
import Uplink.Network.Command

/-!
# Simulated networks

A network in memory. A command gives its interface the address that was asked for, or the one lease
that there is for DHCP, and tells all listeners; a network with delayed assignment holds the
addresses back until they are let through.

## Main definitions

- `Listener`: a subscription and the changes it was told of.
- `SimulatedNetwork`: the interfaces, the listeners and what was applied last.
- `SimulatedNetwork.write`, `SimulatedNetwork.deliver`: an address is written in one step, and each
  listener is told in a later one; `SimulatedNetwork.setAddress` is both without a break.
- `SimulatedNetwork.perform`: a command.
-/

namespace Uplink

/-- A subscription and what it was told. -/
structure Listener where
  id : SubscriptionId
  /-- Whether the subscription has not been ended. -/
  live : Bool := true
  /-- The changes that were not taken yet, oldest first. -/
  inbox : List AddressChange := []
  deriving DecidableEq, Repr

/-- A network in memory. -/
structure SimulatedNetwork where
  interfaces : List Interface
  /-- Whether addresses are held back. -/
  delayed : Bool := false
  /-- The error of every command, if commands are refused. -/
  refusal : Option String := none
  /-- The addresses that were held back, oldest first. -/
  pending : List (String × Address) := []
  staticApplied : Option Address := none
  servers : List Address := []
  dhcpApplied : Bool := false
  listeners : List Listener := []
  nextId : UInt64 := 0
  deriving DecidableEq, Repr

namespace SimulatedNetwork

/-- The address that DHCP hands out. -/
def lease : Address := .ofOctets ⟨192, 168, 0, 100⟩

/-- A device with one Ethernet interface that has no address. -/
def ethernet : SimulatedNetwork := { interfaces := [{ name := "eth0", kind := .ethernet }] }

/-- Changes the first interface of a name. -/
def modifyFirst (name : String) (f : Interface → Interface) : List Interface → List Interface
  | [] => []
  | i :: rest => if i.name = name then f i :: rest else i :: modifyFirst name f rest

/-- The first interface of a name. -/
def find? (n : SimulatedNetwork) (name : String) : Option Interface :=
  n.interfaces.find? fun i => i.name == name

/-- The listeners that would be told of a change now. -/
def audience (n : SimulatedNetwork) : List SubscriptionId :=
  (n.listeners.filter (·.live)).map (·.id)

/-- How many subscriptions there are. -/
def subscribers (n : SimulatedNetwork) : Nat := n.audience.length

/-- Writes an address and says what there is to tell, and to whom; an unknown name changes
nothing. -/
def write (n : SimulatedNetwork) (name : String) (a : Address) :
    SimulatedNetwork × Option (AddressChange × List SubscriptionId) :=
  match n.find? name with
  | none => (n, none)
  | some i =>
    let written := { i with ipv4 := a }
    ({ n with interfaces := modifyFirst name (fun _ => written) n.interfaces },
      some (written.change, n.audience))

/-- Tells one listener of a change. -/
def deliver (n : SimulatedNetwork) (change : AddressChange) (id : SubscriptionId) :
    SimulatedNetwork :=
  { n with listeners := n.listeners.map fun l =>
      if l.id = id then { l with inbox := l.inbox ++ [change] } else l }

/-- Writes an address and tells all listeners. -/
def setAddress (n : SimulatedNetwork) (name : String) (a : Address) : SimulatedNetwork :=
  match n.write name a with
  | (n, none) => n
  | (n, some (change, audience)) => audience.foldl (fun n id => n.deliver change id) n

/-- Lets all addresses through that were held back. -/
def assignPending (n : SimulatedNetwork) : SimulatedNetwork :=
  n.pending.foldl (fun n (name, a) => n.setAddress name a) { n with pending := [] }

/-- Assigns an address now, or holds it back. -/
def assign (n : SimulatedNetwork) (name : String) (a : Address) : SimulatedNetwork :=
  if n.delayed then { n with pending := n.pending ++ [(name, a)] } else n.setAddress name a

/-- Notes whether the address of an interface comes from DHCP. -/
def setDhcp (n : SimulatedNetwork) (name : String) (dhcp : Bool) : SimulatedNetwork :=
  { n with interfaces := modifyFirst name (fun i => { i with dhcp }) n.interfaces }

/-- Carries out a command that is not refused. -/
def apply (n : SimulatedNetwork) : NetworkCommand → SimulatedNetwork
  | .staticAddress name a _ _ =>
    ({ n with staticApplied := some a }.setDhcp name false).assign name a
  | .dhcp name => ({ n with dhcpApplied := true }.setDhcp name true).assign name lease
  | .staticServers _ servers => { n with servers }
  | .automaticServers _ => { n with servers := [] }

/-- Carries out a command, or refuses it and changes nothing. -/
def perform (n : SimulatedNetwork) (c : NetworkCommand) :
    SimulatedNetwork × Except ErrorChain Unit :=
  match n.refusal with
  | some message => (n, .error (.ofMessage message))
  | none => (n.apply c, .ok ())

/-- A new subscription. -/
def subscribe (n : SimulatedNetwork) : SimulatedNetwork × SubscriptionId :=
  let id : SubscriptionId := ⟨n.nextId⟩
  ({ n with nextId := n.nextId + 1, listeners := n.listeners ++ [{ id }] }, id)

/-- Ends a subscription; what it was told stays to be taken. -/
def unsubscribe (n : SimulatedNetwork) (id : SubscriptionId) : SimulatedNetwork :=
  { n with listeners := n.listeners.map fun l => if l.id = id then { l with live := false } else l }

/-- The listener of a subscription. -/
def listener? (n : SimulatedNetwork) (id : SubscriptionId) : Option Listener :=
  n.listeners.find? fun l => l.id == id

/-- Takes the oldest change that a listener was told of. -/
def take (n : SimulatedNetwork) (id : SubscriptionId) : SimulatedNetwork × Option AddressChange :=
  match n.listener? id with
  | some { inbox := change :: _, .. } =>
    ({ n with listeners := n.listeners.map fun l =>
        if l.id = id then { l with inbox := l.inbox.tail } else l }, some change)
  | _ => (n, none)

/-- Whether a subscription will not be told of anything any more. -/
def isClosed (n : SimulatedNetwork) (id : SubscriptionId) : Bool :=
  match n.listener? id with
  | some l => !l.live
  | none => true

end SimulatedNetwork

end Uplink
