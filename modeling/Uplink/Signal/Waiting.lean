import Uplink.Duration
import Uplink.Signal.Basic

/-!
# Waiting for a signal

Threads wait for a signal by looking at it, going to sleep and looking again when they are woken.
Looking and going to sleep is one step, so that no wake-up falls in between; so is each operation
on the signal together with the wake-up call it gives. A sleeper may also wake without a call.

## Main definitions

- `Waiter`: a thread that waits, with the instant at which it gives up, if there is one.
- `Gathering`: a signal, the time and all waiters.
- `Gathering.Step`: every single step that the threads can take.
- `Gathering.settle`, `Gathering.await`: the prompt schedule, in which whoever can go on does so
  at once.
-/

namespace Uplink

/-- A thread that waits for a signal. -/
inductive Waiter where
  /-- Awake and about to look. -/
  | awake (deadline : Option Instant)
  /-- Asleep; `called` tells whether a wake-up call is on its way. -/
  | asleep (deadline : Option Instant) (called : Bool)
  /-- Back with the result of the wait. -/
  | back (result : Bool)
  deriving DecidableEq, Repr

namespace Waiter

/-- Whether a deadline has passed. -/
def isDue (deadline : Option Instant) (now : Instant) : Bool :=
  match deadline with
  | some t => t.reachedAt now
  | none => false

/-- Looks at the signal: passes, goes away, gives up when the deadline has passed, or falls
asleep. -/
def look (s : Signal) (now : Instant) : Waiter → Waiter
  | awake deadline =>
    match s.verdict? with
    | some result => back result
    | none => if isDue deadline now then back false else asleep deadline false
  | w => w

/-- Puts a wake-up call on its way to a sleeper. -/
def call : Waiter → Waiter
  | asleep deadline _ => asleep deadline true
  | w => w

/-- Wakes up, called or not. -/
def wake : Waiter → Waiter
  | asleep deadline _ => awake deadline
  | w => w

/-- The result of a wait that is over. -/
def result? : Waiter → Option Bool
  | back result => some result
  | _ => none

end Waiter

/-- A signal and everyone who waits for it. -/
structure Gathering where
  signal : Signal := .pending
  now : Instant := ⟨0⟩
  waiters : List Waiter := []

/-- What threads do to a signal. -/
inductive SignalOperation where
  | set
  | abandon
  | clear
  deriving DecidableEq, Repr

namespace Gathering

/-- Carries out an operation; all of them call the sleepers, an abandon only if it changes
something. -/
def perform (g : Gathering) : SignalOperation → Gathering
  | .set => { g with signal := g.signal.raise, waiters := g.waiters.map Waiter.call }
  | .clear => { g with signal := g.signal.clear, waiters := g.waiters.map Waiter.call }
  | .abandon =>
    if g.signal = .pending then
      { g with signal := g.signal.abandon, waiters := g.waiters.map Waiter.call }
    else g

/-- A new waiter with a limit on its wait. A limit beyond the range of the clock is none. -/
def arrive (g : Gathering) (limit : Duration) : Gathering :=
  { g with waiters := g.waiters ++ [.awake (g.now.after? limit)] }

/-- The `i`-th waiter looks. -/
def lookAt (g : Gathering) (i : Nat) : Gathering :=
  { g with waiters := g.waiters.modify i (Waiter.look g.signal g.now) }

/-- The `i`-th waiter wakes up. -/
def wakeAt (g : Gathering) (i : Nat) : Gathering :=
  { g with waiters := g.waiters.modify i Waiter.wake }

/-- The steps that the threads around a signal can take, in any order. -/
inductive Step : Gathering → Gathering → Prop
  | perform (g : Gathering) (op : SignalOperation) : Step g (g.perform op)
  | arrive (g : Gathering) (limit : Duration) : Step g (g.arrive limit)
  | look (g : Gathering) (i : Nat) : Step g (g.lookAt i)
  | wake (g : Gathering) (i : Nat) : Step g (g.wakeAt i)
  | pass (g : Gathering) (d : Duration) : Step g { g with now := g.now.later d }

/-- Lets everyone wake up and look. -/
def settle (g : Gathering) : Gathering :=
  { g with waiters := g.waiters.map fun w => (w.wake).look g.signal g.now }

/-- Lets time pass until every waiter with a deadline has given up or passed. -/
def outwait (g : Gathering) : Gathering :=
  let latest := g.waiters.foldl (fun t w =>
    match w with
    | .asleep (some deadline) _ => max t deadline.nanos
    | _ => t) g.now.nanos
  ({ g with now := ⟨latest⟩ } : Gathering).settle

/-- Waits on the calling thread: the result, or nothing if the wait never ends. -/
def await (g : Gathering) (limit : Duration) : Gathering × Option Bool :=
  let there := ((g.arrive limit).settle).outwait
  match there.waiters.getLast? with
  | some w => ({ there with waiters := there.waiters.dropLast }, w.result?)
  | none => (there, none)

end Gathering

end Uplink
