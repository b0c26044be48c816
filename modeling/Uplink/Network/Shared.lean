import Uplink.Network.Simulated

/-!
# Simulated networks between threads

Threads that share a simulated network lock it for each write only. The listeners are called when the
lock is free again, one after the other, and a command or a release of held back addresses takes its
assignments up first and writes them later, one lock for each. Other threads get in between any two
of these steps.

## Main definitions

- `SharedNetwork`: a simulated network, with the assignments and the calls that are still to be made.
- `SharedNetwork.write`, `SharedNetwork.writeUnderway`, `SharedNetwork.call`: the single steps.
- `SharedNetwork.perform`, `SharedNetwork.letThrough`: a command and a release take assignments up.
- `SharedNetwork.settled`: the network when everything that is under way is done without a break.

## Main results

- `SharedNetwork.settled_write`, `SharedNetwork.settled_letThrough`,
  `SharedNetwork.settled_perform`: without a break, the steps are those of `SimulatedNetwork`.
-/

namespace Uplink

/-- A simulated network, and what its threads have begun to do to it. -/
structure SharedNetwork where
  network : SimulatedNetwork
  /-- The assignments that were taken up and are yet to be written. -/
  underway : List (String × Address) := []
  /-- The calls that are yet to be made: who is told, and of what. -/
  calls : List (SubscriptionId × AddressChange) := []
  deriving DecidableEq, Repr

namespace SharedNetwork

/-- Writes an address under the lock; those who listen at that moment are to be called. -/
def write (n : SharedNetwork) (name : String) (a : Address) : SharedNetwork :=
  match n.network.write name a with
  | (network, none) => { n with network }
  | (network, some (change, audience)) =>
    { n with network, calls := n.calls ++ audience.map fun id => (id, change) }

/-- What is told of a write, if there is an interface of that name. -/
def news? (n : SharedNetwork) (name : String) (a : Address) : Option AddressChange :=
  (n.network.write name a).2.map (·.1)

/-- Makes one of the calls. -/
def call (n : SharedNetwork) (k : Nat) : SharedNetwork :=
  match n.calls[k]? with
  | some (id, change) =>
    { n with network := n.network.deliver change id, calls := n.calls.eraseIdx k }
  | none => n

/-- Writes one of the assignments under way. -/
def writeUnderway (n : SharedNetwork) (k : Nat) : SharedNetwork :=
  match n.underway[k]? with
  | some (name, a) => { n with underway := n.underway.eraseIdx k }.write name a
  | none => n

/-- Takes up all addresses that were held back. -/
def letThrough (n : SharedNetwork) : SharedNetwork :=
  { n with
    network := { n.network with pending := [] }
    underway := n.underway ++ n.network.pending }

/-- Takes an assignment up, or holds it back. -/
def assign (n : SharedNetwork) (name : String) (a : Address) : SharedNetwork :=
  if n.network.delayed then
    { n with network := { n.network with pending := n.network.pending ++ [(name, a)] } }
  else { n with underway := n.underway ++ [(name, a)] }

/-- Carries out a command that is not refused. -/
def apply (n : SharedNetwork) : NetworkCommand → SharedNetwork
  | .staticAddress name a _ _ =>
    { n with network := { n.network with staticApplied := some a }.setDhcp name false }.assign name a
  | .dhcp name =>
    { n with network := { n.network with dhcpApplied := true }.setDhcp name true }.assign name
      SimulatedNetwork.lease
  | .staticServers _ servers => { n with network := { n.network with servers } }
  | .automaticServers _ => { n with network := { n.network with servers := [] } }

/-- Carries out a command, or refuses it and changes nothing. -/
def perform (n : SharedNetwork) (c : NetworkCommand) : SharedNetwork × Except ErrorChain Unit :=
  match n.network.refusal with
  | some message => (n, .error (.ofMessage message))
  | none => (n.apply c, .ok ())

/-- Ends a subscription, if one was given back. Calls to it that are under way are still made. -/
def release (n : SharedNetwork) : Option SubscriptionId → SharedNetwork
  | some id => { n with network := n.network.unsubscribe id }
  | none => n

/-- Whether a subscription will not be told of anything any more: it was ended, and no call to it is
under way. -/
def isClosed (n : SharedNetwork) (id : SubscriptionId) : Bool :=
  n.network.isClosed id && n.calls.all fun call => call.1 != id

/-- The network when everything that is under way is done without a break, calls first. -/
def settled (n : SharedNetwork) : SimulatedNetwork :=
  n.underway.foldl (fun m (name, a) => m.setAddress name a)
    (n.calls.foldl (fun m (id, change) => m.deliver change id) n.network)

/-- Without a break, a write and its calls are those of `SimulatedNetwork`. -/
theorem settled_write (n : SimulatedNetwork) (name : String) (a : Address) :
    (write { network := n } name a).settled = n.setAddress name a := by
  simp only [write, SimulatedNetwork.setAddress]
  rcases n.write name a with ⟨network, _ | ⟨change, audience⟩⟩
  · rfl
  · simp only [settled, List.nil_append, List.foldl_map, List.foldl_nil]

/-- So is a release of held back addresses. -/
theorem settled_letThrough (n : SimulatedNetwork) :
    (letThrough { network := n }).settled = n.assignPending := rfl

theorem settled_assign (n : SimulatedNetwork) (name : String) (a : Address) :
    (assign { network := n } name a).settled = n.assign name a := by
  simp only [assign, SimulatedNetwork.assign]
  split <;> rfl

/-- So is a command. -/
theorem settled_perform (n : SimulatedNetwork) (c : NetworkCommand) :
    (perform { network := n } c).1.settled = (n.perform c).1 ∧
      (perform { network := n } c).2 = (n.perform c).2 := by
  simp only [perform, SimulatedNetwork.perform]
  cases n.refusal with
  | some message => exact ⟨rfl, rfl⟩
  | none =>
    refine ⟨?_, rfl⟩
    cases c with
    | staticAddress name a mask gateway => exact settled_assign _ name a
    | dhcp name => exact settled_assign _ name SimulatedNetwork.lease
    | staticServers name servers => rfl
    | automaticServers name => rfl

end SharedNetwork

end Uplink
