import Uplink.Readiness.Caller
import Uplink.Readiness.Reset
import Uplink.Readiness.Watch
import Uplink.Readiness.Worker

/-!
# All threads of a coordinator

The threads of a coordinator take their steps in any order, and the outside replies to them as it
likes. A caller that starts a worker adds a thread.

## Main definitions

- `Thread`: a caller, a worker, a reset or a watcher.
- `System`: the cells and all threads.
- `System.Step`: one thread takes one step, with any reply.
-/

namespace Uplink.Readiness

/-- A thread of a coordinator. -/
inductive Thread where
  | caller (t : Caller)
  | worker (t : Worker)
  | reset (t : Reset)
  | watcher (t : Watch)
  deriving DecidableEq, Repr

namespace Thread

/-- What the next step asks of the outside. -/
@[reducible] def request (cfg : Config) : Thread → Request
  | caller t => t.request cfg
  | worker t => t.request cfg
  | reset _ => .nothing
  | watcher t => t.request

/-- One step of a thread. -/
def step (cfg : Config) (c : Cells) : (t : Thread) → (t.request cfg).Reply → Move Thread
  | caller t, reply => (t.step cfg c reply).map caller
  | worker t, reply => (t.step cfg c reply).map worker
  | reset t, _ => (t.step c).map reset
  | watcher t, reply => (t.step c reply).map watcher

/-- Whether there is nothing left to do. -/
def isOver : Thread → Bool
  | caller (.returned _) => true
  | worker .ended => true
  | reset .done => true
  | watcher (.returned _) => true
  | _ => false

/-- The worker that a step starts: the one that was asked for, if it could be started. -/
def started? (cfg : Config) : (t : Thread) → (t.request cfg).Reply → Option Worker
  | caller (.startWorker s generation channel), .ok () =>
    some (.look ⟨channel, s.desired, s.requiresClock, generation⟩)
  | _, _ => none

end Thread

/-- The cells of a coordinator and the threads that share them. -/
structure System where
  cells : Cells := {}
  threads : List Thread := []

namespace System

/-- The system after one thread has taken a step. -/
def advance (cfg : Config) (s : System) (i : Nat) (t : Thread) (reply : (t.request cfg).Reply) :
    System :=
  let m := t.step cfg s.cells reply
  { cells := m.cells
    threads := s.threads.set i m.next ++ ((t.started? cfg reply).map Thread.worker).toList }

/-- One thread takes one step; or a new caller, reset or watcher comes in. -/
inductive Step (cfg : Config) : System → System → Prop
  | move (s : System) (i : Nat) (t : Thread) (at_i : s.threads[i]? = some t)
      (reply : (t.request cfg).Reply) : Step cfg s (s.advance cfg i t reply)
  | call (s : System) (setup : Setup) :
      Step cfg s { s with threads := s.threads ++ [.caller (.claim setup)] }
  | reset (s : System) : Step cfg s { s with threads := s.threads ++ [.reset .supersede] }
  | watch (s : System) : Step cfg s { s with threads := s.threads ++ [.watcher .watch] }

end System

end Uplink.Readiness
