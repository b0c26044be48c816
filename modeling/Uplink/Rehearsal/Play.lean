import Uplink.Readiness.System

/-!
# Rehearsals: the schedule

A rehearsal runs a coordinator in a world that can be scripted. All threads take turns on one
thread, in logical time. Whoever can go on does so at once; only when everyone waits does time go
on, to the next instant at which someone's wait is over. Every turn is a run of steps of the
coordinator's threads.

## Main definitions

- `World`: what replies to the threads of a coordinator.
- `Play`: a world, the time and the coordinator's workers.
- `Play.runWorkers`: lets every worker go on until it waits.
- `Play.passUntil`: lets time pass.
- `Play.runThread`: runs a thread on the calling side to its end.
-/

namespace Uplink.Rehearsal

open Readiness

/-- What there is around a coordinator: its cells, and what replies to its threads. -/
class World (W : Type) where
  config : W → Config
  cells : W → Cells
  /-- The world after a thread has taken a step. -/
  commit : {Place : Type} → W → Move Place → W
  /-- The reply to a request that needs no waiting, and what carrying it out has logged. -/
  reply? : W → Instant → (q : Request) → Option (W × q.Reply × List Log.Line)
  /-- Lets everything else in the world go on until it waits. -/
  settle : W → Instant → W
  /-- The next instant at which it goes on by itself. -/
  wake? : W → Option Instant

/-- A worker and, while it waits, the instant until which it does. -/
structure Actor where
  place : Worker
  waitsUntil : Option Instant := none

/-- A world, the time, and the workers of the coordinator. -/
structure Play (W : Type) where
  world : W
  now : Instant := ⟨0⟩
  workers : List Actor := []

/-- How many turns a rehearsal may take within one call before it is given up. -/
def patience : Nat := 200000

/-- How long a request waits at most, if it is one that waits. -/
def waitLimit? : Request → Option Duration
  | .receive _ limit => some limit
  | .pause d => some d
  | .watch limit => some limit
  | _ => none

/-- The reply to a request whose wait is over without an event. -/
def expired? : (q : Request) → Option q.Reply
  | .receive .. => some .timeout
  | .pause _ => some ()
  | .watch _ => some true
  | _ => none

/-- The earlier of two instants, if there are any. -/
def earlier? : Option Instant → Option Instant → Option Instant
  | some a, some b => some (if b.nanos < a.nanos then b else a)
  | a, none => a
  | none, b => b

namespace Play

variable {W : Type} [World W]

/-- Lets one worker go on until it waits or ends. -/
def runWorker (now : Instant) : (fuel : Nat) → Actor → W → W × Actor
  | 0, a, w => (w, a)
  | fuel + 1, a, w =>
    let cfg := World.config w
    if a.place = .ended then (w, a)
    else
      match World.reply? w now (a.place.request cfg) with
      | some (w, reply, _) =>
        let m := a.place.step cfg (World.cells w) reply
        runWorker now fuel { place := m.next } (World.commit w m)
      | none =>
        match a.waitsUntil, expired? (a.place.request cfg) with
        | some t, some reply =>
          if t.reachedAt now then
            let m := a.place.step cfg (World.cells w) reply
            runWorker now fuel { place := m.next } (World.commit w m)
          else (w, a)
        | _, _ =>
          let limit := (waitLimit? (a.place.request cfg)).getD .zero
          (w, { a with waitsUntil := some (now.later limit) })

/-- Lets the world and every worker go on until they wait; workers that have ended are dropped. -/
def runWorkers (p : Play W) : Play W :=
  let settled := World.settle p.world p.now
  let (world, waiting) := p.workers.foldl (fun (w, waiting) a =>
    let (w, a) := runWorker p.now patience a w
    (w, if a.place = .ended then waiting else waiting ++ [a])) (settled, [])
  { p with world, workers := waiting }

/-- The next instant after now at which a wait is over. -/
def nextWake? (p : Play W) : Option Instant :=
  p.workers.foldl (fun t a => earlier? t a.waitsUntil) (World.wake? p.world)

/-- Lets workers go on and time pass until a condition holds, or at most until a given instant. -/
def passUntil (goal : Play W → Bool) (limit : Option Instant) : (fuel : Nat) → Play W → Play W
  | 0, p => p
  | fuel + 1, p =>
    let p := p.runWorkers
    if goal p then p
    else
      match limit, p.nextWake? with
      | some l, some w =>
        if l.nanos < w.nanos then { p with now := l }
        else passUntil goal limit fuel { p with now := w }
      | some l, none => { p with now := l }
      | none, some w => passUntil goal limit fuel { p with now := w }
      | none, none => p

/-- Lets a given time pass. -/
def pass (p : Play W) (d : Duration) : Play W :=
  p.passUntil (fun _ => false) (p.now.after? d) patience

/-- Lets time pass until a condition holds. -/
def await (p : Play W) (goal : W → Bool) : Play W :=
  p.passUntil (fun p => goal p.world) none patience

/-- Runs a thread on the calling side to its end; the lines are those that it logs. -/
def runThread : (fuel : Nat) → Thread → Play W → Play W × Thread × List Log.Line
  | 0, t, p => (p, t, [])
  | fuel + 1, t, p =>
    let cfg := World.config p.world
    if t.isOver then (p, t, [])
    else
      match World.reply? p.world p.now (t.request cfg) with
      | some (world, reply, log) =>
        let m := t.step cfg (World.cells world) reply
        let started := (t.started? cfg reply).map fun place => ({ place } : Actor)
        let (p, t, more) := runThread fuel m.next
          { p with world := World.commit world m, workers := p.workers ++ started.toList }
        (p, t, log ++ m.log ++ more)
      | none =>
        let limit := (waitLimit? (t.request cfg)).bind p.now.after?
        let p := p.passUntil
          (fun p => (World.reply? p.world p.now (t.request cfg)).isSome) limit patience
        match World.reply? p.world p.now (t.request cfg), expired? (t.request cfg) with
        | none, some reply =>
          let m := t.step cfg (World.cells p.world) reply
          let (p, t, more) := runThread fuel m.next { p with world := World.commit p.world m }
          (p, t, m.log ++ more)
        | _, _ => runThread fuel t p

/-- Runs a caller to its end. -/
def call (p : Play W) (setup : Setup) : Play W × Option Verdict × List Log.Line :=
  match p.runThread patience (.caller (.claim setup)) with
  | (p, .caller t, log) => (p, t.verdict?, log)
  | (p, _, log) => (p, none, log)

/-- How many of so many callers with the same wish are not refused, one after the other. -/
def callMany (setup : Setup) : (callers : Nat) → Play W → Play W × Nat
  | 0, p => (p, 0)
  | callers + 1, p =>
    let (p, verdict, _) := p.call setup
    let (p, admitted) := callMany setup callers p
    (p, match verdict with
      | some (.refused _) => admitted
      | _ => admitted + 1)

/-- Watches for the network from outside until it is ready, has failed, or the token fires. -/
def watch (p : Play W) : Play W × Bool × List Log.Line :=
  match p.runThread patience (.watcher .watch) with
  | (p, .watcher (.returned ready), log) => (p, ready, log)
  | (p, _, log) => (p, false, log)

/-- Waits for the signal, at most for a given time. -/
def waitReady (p : Play W) (limit : Duration) : Play W × Bool :=
  let p := p.passUntil (fun p => (World.cells p.world).ready.verdict?.isSome)
    (p.now.after? limit) patience
  (p, (World.cells p.world).ready.isSet)

end Play

end Uplink.Rehearsal
