import Uplink.CancelToken
import Uplink.Clock
import Uplink.Network.Simulated
import Uplink.Rehearsal.Play

/-!
# Rehearsals on a simulated network

A coordinator over a simulated network and a manual clock, with faults and with actions that are
carried out when a certain call comes.

## Main definitions

- `Action`, `Cue`, `Faults`: what happens to the network and the clock, and when.
- `Scene`: the world of such a rehearsal.
- `Scene.reply?`: how it replies to the threads of the coordinator.
-/

namespace Uplink.Rehearsal

open Readiness

/-- What can be done to a scene at any time. -/
inductive Action where
  | setAddress (name : String) (a : Address)
  | assignPending
  | setYear (year : Int)
  /-- Cancels the token of the latest call that had one. -/
  | cancel
  | reset
  /-- Ends the coordinator's subscriptions behind its back. -/
  | closeSubscriptions
  deriving DecidableEq, Repr

/-- The calls at which actions can be cued. -/
inductive Call where
  | listInterfaces
  | readClock
  deriving DecidableEq, Repr

/-- Actions for the start of the `count`-th call of a kind, counted from one. -/
structure Cue where
  call : Call
  count : Nat
  actions : List Action
  deriving DecidableEq, Repr

/-- The calls that fail. -/
structure Faults where
  /-- The looks at the interfaces that fail, counted from one. -/
  lists : List Nat := []
  subscribe : Option String := none
  staticServers : Option String := none
  automaticServers : Option String := none
  deriving DecidableEq, Repr

/-- Everything around a coordinator on a simulated network. -/
structure Scene where
  config : Config
  network : SimulatedNetwork
  clock : ManualClock
  faults : Faults := {}
  cues : List Cue := []
  cells : Cells := {}
  flags : CancelToken.Flags := []
  /-- The token of the latest call that had one. -/
  token : Option CancelToken := none
  /-- The calls so far, by kind. -/
  listCalls : Nat := 0
  clockCalls : Nat := 0
  /-- The commands and subscriptions so far, as text. -/
  record : List String := []
  /-- The subscriptions that the coordinator was given. -/
  issued : List SubscriptionId := []

/-- How a command is recorded. -/
def recordOf : NetworkCommand → String
  | .staticAddress name a mask gateway =>
    s!"static {name} {a.text} {mask.text} {gateway.text}"
  | .dhcp name => s!"dhcp {name}"
  | .staticServers name servers =>
    s!"static_dns {name} " ++ String.intercalate "," (servers.map Address.text)
  | .automaticServers name => s!"auto_dns {name}"

namespace Scene

/-- Writes something into the record. -/
def note (s : Scene) (entry : String) : Scene := { s with record := s.record ++ [entry] }

/-- The scene after a thread has taken a step, subscriptions given back. -/
def commit {Place : Type} (s : Scene) (m : Move Place) : Scene :=
  let s := { s with cells := m.cells }
  match m.unsubscribed with
  | none => s
  | some id =>
    { s.note s!"unsubscribe {id.number.toNat}" with network := s.network.unsubscribe id }

/-- Carries out all writes of a reset from a given one on. A reset has eight writes. -/
def resetFrom : (fuel : Nat) → Reset → Scene → Scene × List Log.Line
  | 0, _, s => (s, [])
  | _, .done, s => (s, [])
  | fuel + 1, r, s =>
    let m := r.step s.cells
    let (s, log) := resetFrom fuel m.next (s.commit m)
    (s, m.log ++ log)

/-- Resets the coordinator. -/
def reset (s : Scene) : Scene × List Log.Line := resetFrom 9 .supersede s

/-- Carries out an action. -/
def act (s : Scene) : Action → Scene × List Log.Line
  | .setAddress name a => ({ s with network := s.network.setAddress name a }, [])
  | .assignPending => ({ s with network := s.network.assignPending }, [])
  | .setYear year => ({ s with clock := s.clock.setYear year }, [])
  | .cancel =>
    match s.token with
    | some t => ({ s with flags := t.cancel s.flags }, [])
    | none => (s, [])
  | .reset => s.reset
  | .closeSubscriptions =>
    ({ s with network := s.issued.foldl (fun n id => n.unsubscribe id) s.network }, [])

/-- Carries out actions in order. -/
def actAll (s : Scene) (actions : List Action) : Scene × List Log.Line :=
  actions.foldl (fun (s, log) a =>
    let (s, more) := s.act a
    (s, log ++ more)) (s, [])

/-- Carries out what is cued for a call. -/
def cue (s : Scene) (call : Call) (count : Nat) : Scene × List Log.Line :=
  s.actAll ((s.cues.filter fun c => c.call == call && c.count == count).flatMap (·.actions))

/-- A look at the interfaces: it is counted, its cues are carried out, then it is answered. -/
def look (s : Scene) : Scene × Except ErrorChain (List Interface) × List Log.Line :=
  let count := s.listCalls + 1
  let (s, log) := { s with listCalls := count }.cue .listInterfaces count
  if s.faults.lists.contains count then (s, .error (.ofMessage s!"list {count} failed"), log)
  else (s, .ok s.network.interfaces, log)

/-- A reading of the clock, counted and answered in the same way. -/
def readClock (s : Scene) : Scene × Int × List Log.Line :=
  let count := s.clockCalls + 1
  let (s, log) := { s with clockCalls := count }.cue .readClock count
  (s, s.clock.year, log)

/-- A subscription of the coordinator. -/
def subscribe (s : Scene) : Scene × Except ErrorChain SubscriptionId :=
  match s.faults.subscribe with
  | some message => (s, .error (.ofMessage message))
  | none =>
    let (network, id) := s.network.subscribe
    ({ s.note s!"subscribe {id.number.toNat}" with network, issued := s.issued ++ [id] }, .ok id)

/-- A command is recorded, then fails or reaches the network. -/
def command (s : Scene) (c : NetworkCommand) : Scene × Except ErrorChain Unit :=
  let s := s.note (recordOf c)
  let fault := match c with
    | .staticServers .. => s.faults.staticServers
    | .automaticServers _ => s.faults.automaticServers
    | _ => none
  match fault with
  | some message => (s, .error (.ofMessage message))
  | none =>
    let (network, result) := s.network.perform c
    ({ s with network }, result)

/-- Whether the token of the current call is cancelled. -/
def isCancelled (s : Scene) (now : Instant) : Bool :=
  match s.token with
  | some t => t.isCancelled s.flags now
  | none => false

/-- Ends a subscription, and answers whether there was one that is none of the coordinator's. -/
def unlisten (s : Scene) (id : SubscriptionId) : Scene × Bool :=
  ({ s with network := s.network.unsubscribe id },
    !s.issued.contains id && (s.network.listener? id).any (·.live))

/-- What a subscription was told that is none of the coordinator's. -/
def heard (s : Scene) (id : SubscriptionId) : List AddressChange :=
  if s.issued.contains id then []
  else
    match s.network.listener? id with
    | some l => l.inbox
    | none => []

/-- The reply to a request that needs no waiting, and what carrying it out has logged. -/
def reply? (s : Scene) (now : Instant) : (q : Request) → Option (Scene × q.Reply × List Log.Line)
  | .listInterfaces => some s.look
  | .subscribe =>
    let (s, reply) := s.subscribe
    some (s, reply, [])
  | .command c =>
    let (s, reply) := s.command c
    some (s, reply, [])
  | .readClock => some s.readClock
  | .readToken => some (s, s.isCancelled now, [])
  | .startWorker _ => some (s, .ok (), [])
  | .nothing => some (s, (), [])
  | .receive channel _ =>
    match s.network.take channel with
    | (network, some change) => some ({ s with network }, .change change, [])
    | (_, none) => if s.network.isClosed channel then some (s, .closed, []) else none
  | .watch _ => if s.cells.ready.verdict?.isSome then some (s, false, []) else none
  | .pause _ => none

instance : World Scene where
  config := Scene.config
  cells := Scene.cells
  commit := commit
  reply? := reply?
  settle s _ := s
  wake? _ := none

end Scene

end Uplink.Rehearsal
