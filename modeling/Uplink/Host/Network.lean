import Uplink.Host.Machine
import Uplink.Host.Program
import Uplink.Network.Command

/-!
# The network of a host

A host's network either leaves its configuration to the operating system or carries commands out by
running programs. The program that sets an address takes the length of a prefix where the command
has a mask; how the length is found is not a matter of the network. It remembers the interfaces for
which DHCP was the last address command, and the listeners that its watcher tells of address
changes.

## Main definitions

- `HostMode`, `HostNetwork`: the state of a host's network.
- `PrefixFinder`: what finds the prefix of a mask.
- `HostNetwork.plan`: the programs that carry a command out.
- `HostNetwork.perform`: a command.
- `ListenerTable`: who listens, and whether a watcher runs; `ListenerTable.register` adds a
  listener and starts a watcher if none runs.
-/

namespace Uplink.Host

/-- Whose business the configuration is. -/
inductive HostMode where
  /-- The operating system's; commands are left to it. -/
  | observe
  /-- Ours; commands are carried out. -/
  | apply
  deriving DecidableEq, Repr

/-- Who listens for address changes, and whether a watcher runs. -/
structure ListenerTable where
  subscribers : List SubscriptionId := []
  running : Bool := false
  deriving DecidableEq, Repr

namespace ListenerTable

/-- Removes a listener. -/
def remove (t : ListenerTable) (id : SubscriptionId) : ListenerTable :=
  { t with subscribers := t.subscribers.filter (· ≠ id) }

/-- Adds a listener. The first one needs a watcher; `start` tells whether it could be started, and
if not then the listener is taken out again. Answers whether a watcher was started. -/
def register (t : ListenerTable) (id : SubscriptionId) (start : Except ErrorChain Unit) :
    ListenerTable × Except ErrorChain Bool :=
  let entered : ListenerTable := { t with subscribers := t.subscribers ++ [id] }
  if t.running then (entered, .ok false)
  else
    match start with
    | .ok () => ({ entered with running := true }, .ok true)
    | .error e => (entered.remove id, .error (.wrap "failed to start the interface watcher" e))

end ListenerTable

/-- The network of a host. -/
structure HostNetwork where
  mode : HostMode := .observe
  /-- The names for which DHCP was the last address command. -/
  dhcp : List String := []
  table : ListenerTable := {}
  nextId : UInt64 := 0
  deriving DecidableEq, Repr

/-- What finds the length of the prefix of a mask, or says why there is none. -/
abbrev PrefixFinder := Quad → Except String UInt8

/-- Why a command cannot be planned. -/
inductive PlanFault where
  | foreignMask
  /-- No prefix was found, for this reason. -/
  | noPrefix (reason : String)
  deriving DecidableEq, Repr

/-- The wording of each fault. -/
def PlanFault.message : PlanFault → String
  | .foreignMask => "subnet mask must be an IPv4 address"
  | .noPrefix reason => reason

/-- What came of a command: the network and the shell after it, the programs that were tried, what
was logged, and the error if there was one. -/
structure Performance (S : Type) where
  network : HostNetwork
  shell : S
  tried : List Invocation
  log : List Log.Line
  result : Except ErrorChain Unit

namespace HostNetwork

/-- What the interfaces of a machine look like to this network. -/
def snapshot (h : HostNetwork) (p : Probes) (machine : List MachineInterface) : List Interface :=
  Host.snapshot p h.dhcp.contains machine

/-- Notes which interfaces get their address by DHCP. It is noted before anything is tried. -/
def note (h : HostNetwork) : NetworkCommand → HostNetwork
  | .staticAddress name .. => { h with dhcp := h.dhcp.filter (· ≠ name) }
  | .dhcp name => { h with dhcp := if h.dhcp.contains name then h.dhcp else h.dhcp ++ [name] }
  | _ => h

/-- What a command sets, in words. -/
def subject : NetworkCommand → String
  | .staticAddress .. => "static IPv4"
  | .dhcp _ => "DHCP"
  | .staticServers .. => "static DNS"
  | .automaticServers _ => "DNS"

/-- The programs that give an interface its address. A zero gateway is none. -/
def planAddress (name : String) (a : Address) (length : UInt8) (gateway : Address) :
    List Invocation :=
  [ ⟨"ip", ["addr", "flush", "dev", name]⟩,
    ⟨"ip", ["addr", "add", s!"{a.text}/{length.toNat}", "dev", name]⟩ ] ++
    if gateway.isAny then []
    else [⟨"ip", ["route", "replace", "default", "via", gateway.text, "dev", name]⟩]

/-- The programs that carry a command out. -/
def plan (finder : PrefixFinder) : NetworkCommand → Except PlanFault (List Invocation)
  | .staticAddress name a mask gateway =>
    if !mask.isIPv4 then .error .foreignMask
    else
      match finder mask.octets with
      | .error reason => .error (.noPrefix reason)
      | .ok length => .ok (planAddress name a length gateway)
  | .dhcp name => .ok [⟨"dhclient", ["-nw", name]⟩]
  | .staticServers name servers => .ok [⟨"resolvectl", ["dns", name] ++ servers.map Address.text⟩]
  | .automaticServers name => .ok [⟨"resolvectl", ["revert", name]⟩]

/-- Carries a command out, or leaves it to the operating system. -/
def perform {S : Type} (h : HostNetwork) (finder : PrefixFinder) (shell : Shell S) (s : S)
    (c : NetworkCommand) : Performance S :=
  let noted := h.note c
  match h.mode with
  | .observe =>
    let line : Log.Line :=
      ⟨.info, s!"observe mode: leaving {subject c} on {c.interface} to the operating system"⟩
    ⟨noted, s, [], [line], .ok ()⟩
  | .apply =>
    match plan finder c with
    | .error fault => ⟨noted, s, [], [], .error (.ofMessage fault.message)⟩
    | .ok invocations =>
      let run := shell.runAll s invocations
      ⟨noted, run.state, run.tried, run.tried.map (·.announcement), run.result⟩

/-- Draws the identifier of a new subscription; no two are the same. -/
def draw (h : HostNetwork) : HostNetwork × SubscriptionId :=
  ({ h with nextId := h.nextId + 1 }, ⟨h.nextId⟩)

/-- Adds a listener under a drawn identifier. -/
def register (h : HostNetwork) (id : SubscriptionId) (start : Except ErrorChain Unit) :
    HostNetwork × Except ErrorChain Bool :=
  let (table, result) := h.table.register id start
  ({ h with table }, result)

/-- Removes a listener; the watcher notices by itself when nobody is left. -/
def unsubscribe (h : HostNetwork) (id : SubscriptionId) : HostNetwork :=
  { h with table := h.table.remove id }

end HostNetwork

end Uplink.Host
