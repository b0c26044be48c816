import Uplink.Host.Network

/-!
# The watcher

There are no address events on a host. A watcher thread looks at the interfaces again and again and
tells the listeners of every difference. It stops when it finds that nobody listens.

## Main definitions

- `Known`: the last address that was seen under each name; names are never forgotten.
- `Watcher`: the places of a watcher thread, each named for the step that comes next.
- `Watcher.step`: one step.
- `System`, `System.Step`: listeners that come and go, a machine that changes, and watchers, each
  taking single steps in any order.
-/

namespace Uplink.Host

/-- The last address that was seen under each name. -/
abbrev Known := List (String × Address)

namespace Known

/-- The address that was last seen under a name. -/
def last? (k : Known) (name : String) : Option Address := k.lookup name

/-- Notes the address of an interface. -/
def note (k : Known) (i : Interface) : Known :=
  (i.name, i.ipv4) :: k.filter fun entry => entry.1 != i.name

/-- Notes the addresses of interfaces in order: of two with the same name, the later one counts. -/
def noteAll (k : Known) (interfaces : List Interface) : Known := interfaces.foldl note k

/-- Whether an interface shows another address than was last seen under its name. -/
def isNews (k : Known) (i : Interface) : Bool := k.last? i.name != some i.ipv4

@[simp] theorem last?_note_self (k : Known) (i : Interface) :
    (k.note i).last? i.name = some i.ipv4 := by
  simp [last?, note]

/-- Noting an interface leaves what is known of other names as it was. -/
theorem last?_note_of_ne (k : Known) {i : Interface} {name : String} (h : name ≠ i.name) :
    (k.note i).last? name = k.last? name := by
  induction k with
  | nil => simp [last?, note, List.lookup_cons, beq_false_of_ne h]
  | cons entry rest ih =>
    obtain ⟨other, a⟩ := entry
    simp only [last?, note, List.lookup_cons, beq_false_of_ne h] at ih ⊢
    by_cases same : other = i.name
    · subst same
      simp [beq_false_of_ne h, ih]
    · simp only [List.filter_cons, bne_iff_ne, ne_eq, same, not_false_eq_true, if_true,
        List.lookup_cons]
      cases name == other <;> simp [ih]

end Known

/-- The places of a watcher thread. -/
inductive Watcher where
  /-- Started; next it takes its first look. -/
  | start
  | sleep (known : Known)
  /-- Awake; next it sees who listens, or stops. -/
  | enter (known : Known)
  | look (known : Known) (audience : List SubscriptionId)
  /-- Next it makes the first of these calls, or turns to the first interface of the rest. -/
  | tell (known : Known) (audience : List SubscriptionId)
      (calls : List (SubscriptionId × AddressChange)) (rest : List Interface)
  | stopped
  deriving DecidableEq, Repr

/-- What a step of a watcher leads to. -/
structure WatcherMove where
  table : ListenerTable
  next : Watcher
  /-- The listener that was called, and with what. -/
  call : Option (SubscriptionId × AddressChange) := none
  log : List Log.Line := []
  deriving DecidableEq, Repr

namespace Watcher

/-- Seeing who listens and stopping is one step: the table is locked throughout. -/
def stepEnter (known : Known) (t : ListenerTable) : WatcherMove :=
  if t.subscribers.isEmpty then
    { table := { t with running := false }
      next := .stopped
      log := [⟨.trace, "interface watcher stopped"⟩] }
  else { table := t, next := .look known t.subscribers }

/-- Turns to an interface: everyone in the audience is to be called if its address is news. -/
def stepInterface (known : Known) (audience : List SubscriptionId) (i : Interface)
    (rest : List Interface) (t : ListenerTable) : WatcherMove :=
  if known.isNews i then
    { table := t
      next := .tell (known.note i) audience (audience.map fun id => (id, i.change)) rest
      log := [⟨.debug, s!"{i.name} address changed to {i.ipv4.text}"⟩] }
  else { table := t, next := .tell (known.note i) audience [] rest }

/-- One step of a watcher; `seen` is what the interfaces look like at this moment. -/
def step (t : ListenerTable) (seen : List Interface) : Watcher → WatcherMove
  | start => { table := t, next := .sleep (Known.noteAll [] seen) }
  | sleep known => { table := t, next := .enter known }
  | enter known => stepEnter known t
  | look known audience => { table := t, next := .tell known audience [] seen }
  | tell known audience (call :: calls) rest =>
    { table := t, next := .tell known audience calls rest, call := some call }
  | tell known audience [] (i :: rest) => stepInterface known audience i rest t
  | tell known _ [] [] => { table := t, next := .sleep known }
  | stopped => { table := t, next := .stopped }

/-- Whether the next step is a look at the interfaces. -/
def looksNext : Watcher → Bool
  | start => true
  | look .. => true
  | _ => false

end Watcher

/-- A host's network, its machine, and all threads on it. -/
structure System where
  network : HostNetwork
  machine : List MachineInterface
  /-- The identifiers that were drawn by subscriptions still under way. -/
  drawn : List SubscriptionId := []
  watchers : List Watcher := []
  /-- All calls of listeners so far. -/
  told : List (SubscriptionId × AddressChange) := []

namespace System

/-- What the interfaces look like at this moment. -/
def seen (p : Probes) (s : System) : List Interface := s.network.snapshot p s.machine

/-- The system after its `i`-th watcher has taken a step. -/
def advance (p : Probes) (s : System) (i : Nat) (w : Watcher) : System :=
  let m := w.step s.network.table (s.seen p)
  { s with
    network := { s.network with table := m.table }
    watchers := s.watchers.set i m.next
    told := s.told ++ m.call.toList }

/-- The system after a subscription has drawn its identifier. -/
def draw (s : System) : System :=
  let (network, id) := s.network.draw
  { s with network, drawn := s.drawn ++ [id] }

/-- The system after a subscription under a drawn identifier has come through. -/
def register (s : System) (id : SubscriptionId) (start : Except ErrorChain Unit) : System :=
  let (network, result) := s.network.register id start
  { s with
    network
    drawn := s.drawn.erase id
    watchers := match result with
      | .ok true => s.watchers ++ [.start]
      | _ => s.watchers }

/-- One step of anyone. -/
inductive Step (p : Probes) : System → System → Prop
  | watch (s : System) (i : Nat) (w : Watcher) (at_i : s.watchers[i]? = some w) :
      Step p s (s.advance p i w)
  | draw (s : System) : Step p s s.draw
  | register (s : System) (id : SubscriptionId) (drawn : id ∈ s.drawn)
      (start : Except ErrorChain Unit) : Step p s (s.register id start)
  | unsubscribe (s : System) (id : SubscriptionId) :
      Step p s { s with network := s.network.unsubscribe id }
  | change (s : System) (machine : List MachineInterface) : Step p s { s with machine }
  | command (s : System) (c : NetworkCommand) : Step p s { s with network := s.network.note c }

end System

end Uplink.Host
