import Uplink.Duration
import Uplink.Host.StandIn
import Uplink.Host.Watcher

/-!
# Rehearsals on a host

A host whose machine and programs are scripted: each look at the machine sees the next of a list of
frames, and the programs are stand-ins. The host's watchers run in logical time.

## Main definitions

- `Lookout`: a watcher in logical time.
- `Site`: the host, its script and its watchers.
- `Site.look`, `Site.perform`, `Site.subscribe`, `Site.take`: what can be asked of it.
- `Site.settle`: lets the watchers go on until they sleep.
-/

namespace Uplink.Rehearsal

open Host

/-- A watcher and, while it sleeps, the instant until which it does. -/
structure Lookout where
  place : Watcher
  wakesAt : Option Instant := none

/-- A host whose machine and programs are scripted. -/
structure Site where
  network : HostNetwork
  /-- What the looks at the machine see, one after the other; the last frame stays. -/
  frames : List (List MachineInterface)
  /-- How long a watcher sleeps. -/
  interval : Duration
  programs : StandIns := {}
  probes : Probes := .blind
  /-- The looks so far. -/
  looks : Nat := 0
  lookouts : List Lookout := []
  /-- The calls of listeners that were not taken yet, oldest first. -/
  told : List (SubscriptionId × AddressChange) := []

/-- How many steps a watcher may take at one time before it is given up. -/
def Lookout.stamina : Nat := 200000

namespace Site

/-- The frame that the next look sees. -/
def frame (s : Site) : List MachineInterface :=
  match s.frames[s.looks]? with
  | some f => f
  | none => s.frames.getLastD []

/-- A look at the machine. -/
def look (s : Site) : Site × List Interface :=
  ({ s with looks := s.looks + 1 }, s.network.snapshot s.probes s.frame)

/-- A command, with what it logged. -/
def perform (s : Site) (c : NetworkCommand) : Site × Except ErrorChain Unit × List Log.Line :=
  let done := s.network.perform StandIns.finder StandIns.shell s.programs c
  ({ s with network := done.network, programs := done.shell }, done.result, done.log)

/-- A subscription; `start` tells whether a watcher could be started. -/
def subscribe (s : Site) (start : Except ErrorChain Unit) :
    Site × Except ErrorChain SubscriptionId :=
  let (drawn, id) := s.network.draw
  let (network, result) := drawn.register id start
  match result with
  | .error e => ({ s with network }, .error e)
  | .ok started =>
    ({ s with
        network
        lookouts := if started then s.lookouts ++ [{ place := .start }] else s.lookouts }, .ok id)

/-- The end of a subscription. -/
def unsubscribe (s : Site) (id : SubscriptionId) : Site :=
  { s with network := s.network.unsubscribe id }

/-- Takes the oldest call of a listener. -/
def take (s : Site) (id : SubscriptionId) : Site × Option AddressChange :=
  match s.told.find? fun call => call.1 == id with
  | some call => ({ s with told := s.told.erase call }, some call.2)
  | none => (s, none)

/-- Takes all calls of a listener. -/
def takeAll (s : Site) (id : SubscriptionId) : Site × List AddressChange :=
  ({ s with told := s.told.filter fun call => call.1 != id },
    (s.told.filter fun call => call.1 == id).map (·.2))

/-- The site after a watcher has taken a step. -/
def afterStep (s : Site) (m : WatcherMove) : Site :=
  { s with network := { s.network with table := m.table }, told := s.told ++ m.call.toList }

/-- Lets one watcher go on until it sleeps or stops. -/
def runLookout (now : Instant) : (fuel : Nat) → Lookout → Site → Site × Lookout
  | 0, l, s => (s, l)
  | fuel + 1, l, s =>
    if l.place = .stopped then (s, l)
    else if l.place.looksNext then
      let (s, seen) := s.look
      let m := l.place.step s.network.table seen
      runLookout now fuel { place := m.next } (s.afterStep m)
    else
      let m := l.place.step s.network.table []
      match l.place, l.wakesAt with
      | .sleep _, none => (s, { l with wakesAt := some (now.later s.interval) })
      | .sleep _, some t =>
        if t.reachedAt now then runLookout now fuel { place := m.next } (s.afterStep m)
        else (s, l)
      | _, _ => runLookout now fuel { place := m.next } (s.afterStep m)

/-- Lets every watcher go on until it sleeps; those that have stopped are dropped. -/
def settle (s : Site) (now : Instant) : Site :=
  let (s, kept) := s.lookouts.foldl (fun (s, kept) l =>
    let (s, l) := runLookout now Lookout.stamina l s
    (s, if l.place = .stopped then kept else kept ++ [l])) (s, [])
  { s with lookouts := kept }

/-- The next instant at which a watcher wakes up. -/
def wake? (s : Site) : Option Instant :=
  (s.lookouts.filterMap (·.wakesAt)).foldl (fun t w =>
    match t with
    | some t => some (if w.nanos < t.nanos then w else t)
    | none => some w) none

end Site

end Uplink.Rehearsal
