import Uplink.CancelToken
import Uplink.Rehearsal.Play
import Uplink.Rehearsal.Site

/-!
# Rehearsals of a coordinator on a host

A coordinator over the network of a scripted host. Its caller's token is cancelled by a timeout, or
by an interrupt that comes once the machine was looked at so many times.

## Main definitions

- `HostScene`: the world of such a rehearsal.
- `HostScene.reply?`: how it replies to the threads of the coordinator.
-/

namespace Uplink.Rehearsal

open Readiness

/-- Everything around a coordinator on a scripted host. -/
structure HostScene where
  config : Config
  site : Site
  /-- The year that the wall clock shows. -/
  year : Int
  cells : Cells := {}
  token : CancelToken
  flags : CancelToken.Flags
  /-- The number of looks after which an interrupt cancels the token. -/
  interruptAfter : Option Nat := none

namespace HostScene

/-- The scene after a thread has taken a step, subscriptions given back. -/
def commit {Place : Type} (s : HostScene) (m : Move Place) : HostScene :=
  let s := { s with cells := m.cells }
  match m.unsubscribed with
  | none => s
  | some id => { s with site := s.site.unsubscribe id }

/-- Whether the interrupt has come. -/
def isInterrupted (s : HostScene) : Bool :=
  match s.interruptAfter with
  | some n => n ≤ s.site.looks
  | none => false

/-- Whether the token is cancelled. -/
def isCancelled (s : HostScene) (now : Instant) : Bool :=
  s.isInterrupted || s.token.isCancelled s.flags now

/-- The reply to a request that needs no waiting, and what carrying it out has logged. -/
def reply? (s : HostScene) (now : Instant) :
    (q : Request) → Option (HostScene × q.Reply × List Log.Line)
  | .listInterfaces =>
    let (site, seen) := s.site.look
    some ({ s with site }, .ok seen, [])
  | .subscribe =>
    let (site, reply) := s.site.subscribe (.ok ())
    some ({ s with site }, reply, [])
  | .command c =>
    let (site, reply, log) := s.site.perform c
    some ({ s with site }, reply, log)
  | .readClock => some (s, s.year, [])
  | .readToken => some (s, s.isCancelled now, [])
  | .startWorker _ => some (s, .ok (), [])
  | .nothing => some (s, (), [])
  | .receive channel _ =>
    match s.site.take channel with
    | (site, some change) => some ({ s with site }, .change change, [])
    | (_, none) =>
      if s.site.network.table.subscribers.contains channel then none else some (s, .closed, [])
  | .watch _ => if s.cells.ready.verdict?.isSome then some (s, false, []) else none
  | .pause _ => none

instance : World HostScene where
  config := HostScene.config
  cells := HostScene.cells
  commit := commit
  reply? := reply?
  settle s now := { s with site := s.site.settle now }
  wake? s := s.site.wake?

end HostScene

end Uplink.Rehearsal
