import Uplink.Proofs.Readiness.Outside

/-!
# Where resets are counted from

The count of resets is only ever compared with itself at another time: a caller takes it down, hands
it to its worker, and the worker looks whether it has changed. So nothing depends on the number at
which the count began. Here it is shifted in everything that carries it, in cells, places, requests
and dealings, and each step turns out to be the same step up to the shift.

## Main definitions

- `Cells.since`, `Thread.since` and their siblings: resets counted from a given number.
- `World.since`: also without the threads that were there before.

## Main results

- `Thread.step_since`: a step does not depend on where resets are counted from.
- `World.since_turn`: neither does a turn.
-/

namespace Uplink.Readiness

variable {cfg : Config} {c : Cells} {g : UInt64} {E : Type}

/-- The cells, with resets counted from a given number. -/
def Cells.since (g : UInt64) (c : Cells) : Cells := { c with generation := c.generation - g }

/-- A job, with resets counted from a given number. -/
def Job.since (g : UInt64) (j : Job) : Job := { j with generation := j.generation - g }

/-- A request, with resets counted from a given number. -/
def Request.since (g : UInt64) : Request → Request
  | startWorker j => startWorker (j.since g)
  | q => q

/-- A dealing, with resets counted from a given number. -/
def Dealing.since (g : UInt64) : Dealing → Dealing
  | asked (.startWorker j) reply => asked (.startWorker (j.since g)) reply
  | d => d

/-- What a caller carries, with resets counted from a given number. -/
def Approach.since (g : UInt64) : Approach → Approach
  | events generation => events (generation - g)
  | polling => polling

/-- What a caller carries, with resets counted from a given number. -/
def Route.since (g : UInt64) : Route → Route
  | events generation channel => events (generation - g) channel
  | polling => polling

/-- A place of a caller, with resets counted from a given number. -/
def Caller.since (g : UInt64) : Caller → Caller
  | start s a => start s (a.since g)
  | find s a => find s (a.since g)
  | subscribe s generation interface => subscribe s (generation - g) interface
  | keepSubscription s generation interface id => keepSubscription s (generation - g) interface id
  | assign s r interface => assign s (r.since g) interface
  | setServers s r interface => setServers s (r.since g) interface
  | keepConfiguration s r => keepConfiguration s (r.since g)
  | settle s r => settle s (r.since g)
  | startWorker s generation channel => startWorker s (generation - g) channel
  | t => t

/-- A place of a worker, with resets counted from a given number. -/
def Worker.since (g : UInt64) : Worker → Worker
  | look j => look (j.since g)
  | receive j => receive (j.since g)
  | checkTimeout j => checkTimeout (j.since g)
  | checkClosed j => checkClosed (j.since g)
  | checkFault j f => checkFault (j.since g) f
  | checkAddress j => checkAddress (j.since g)
  | observe j => observe (j.since g)
  | release j => release (j.since g)
  | checkClock j => checkClock (j.since g)
  | readClock j => readClock (j.since g)
  | clockPause j => clockPause (j.since g)
  | checkReady j => checkReady (j.since g)
  | conclude j e stage => conclude (j.since g) e stage
  | ended => ended

/-- A place of a thread, with resets counted from a given number. -/
def Thread.since (g : UInt64) : Thread → Thread
  | caller t => caller (t.since g)
  | worker w => worker (w.since g)
  | t => t

/-- What a step leads to, with resets counted from a given number. -/
def Move.since {Place : Type} (g : UInt64) (place : Place → Place) (m : Move Place) : Move Place :=
  { m with cells := m.cells.since g, next := place m.next }

/-- Whether a worker is still wanted does not depend on where resets are counted from. -/
theorem Cells.since_generation_eq_iff {j : Job} :
    (c.since g).generation = (j.since g).generation ↔ c.generation = j.generation := by
  simp only [since, Job.since]
  grind

theorem Ending.step_since {Place : Type} (place : Place → Place) (e : Ending) (stage : Stage)
    (again : Stage → Place) (after : Place) :
    e.step cfg stage (place ∘ again) (place after) (c.since g) =
      (e.step cfg stage again after c).since g place := by
  cases stage <;> cases e <;> rfl

namespace Outside

variable (o : Outside E) (e : E)

theorem answer_since (q : Request) : (o.answer e (q.since g)).2 = (o.answer e q).2 := by
  cases q <;> rfl

end Outside

variable (o : Outside E) (e : E)

theorem Worker.step_since (w : Worker) :
    (w.since g).step cfg (c.since g) (o.answer e ((w.since g).request cfg)).1 =
      (w.step cfg c (o.answer e (w.request cfg)).1).since g (Worker.since g) := by
  cases w with
  | look j =>
    simp only [since, request, step, stepLook]
    cases (o.answer e .listInterfaces).1 with
    | error cause => rfl
    | ok interfaces =>
      simp only [Move.since, apply_ite (Worker.since g)]
      rfl
  | receive j =>
    simp only [since, Job.since, request, step]
    cases (o.answer e (.receive j.channel cfg.pollInterval)).1 with
    | change ch =>
      simp only [stepReceive, Move.since, apply_ite (Worker.since g)]
      rfl
    | timeout => rfl
    | closed => rfl
  | checkTimeout j | checkClosed j | checkFault j | checkAddress j | checkClock j | checkReady j =>
    simp only [since, step, Cells.since_generation_eq_iff]
    split <;> rfl
  | release j =>
    simp only [since, step, Job.since]
    split <;> rfl
  | readClock j =>
    simp only [since, request, step]
    simp only [Move.since, apply_ite (Worker.since g)]
    rfl
  | conclude j ending stage =>
    exact ending.step_since (Worker.since g) stage (.conclude j ending) .ended
  | _ => rfl

theorem Caller.step_since (t : Caller) :
    (t.since g).step cfg (c.since g) (o.answer e ((t.since g).request cfg)).1 =
      (t.step cfg c (o.answer e (t.request cfg)).1).since g (Caller.since g) := by
  cases t with
  | claim s =>
    simp only [since, step, stepClaim]
    cases claimed : c.claimed with
    | true => simp [Cells.since, claimed, Move.since, since]
    | false =>
      cases mode : s.mode <;> simp [Cells.since, claimed, Move.since, since, Approach.since]
  | find s a =>
    simp only [since, step, stepFind]
    cases (o.answer e .listInterfaces).1 with
    | error cause => rfl
    | ok interfaces =>
      simp only
      cases Probe.pick? cfg.target interfaces with
      | none => rfl
      | some i => cases a <;> rfl
  | subscribe s generation interface =>
    simp only [since, step]
    cases (o.answer e .subscribe).1 <;> rfl
  | assign s r interface =>
    simp only [since, step]
    cases (o.answer e (.command (addressCommand s interface))).1 <;> rfl
  | setServers s r interface =>
    simp only [since, step]
    cases (o.answer e (.command (serversCommand s interface))).1 <;> rfl
  | settle s r => cases r <;> rfl
  | startWorker s generation channel =>
    simp only [since, step, Outside.answer]
    cases o.startThread e <;> rfl
  | checkToken s | checkTokenForClock s =>
    simp only [since, step]
    cases (o.answer e .readToken).1 <;> rfl
  | poll s =>
    simp only [since, step, stepPoll]
    cases (o.answer e .listInterfaces).1 with
    | error cause => rfl
    | ok interfaces =>
      simp only [Move.since, apply_ite (Caller.since g)]
      rfl
  | observe s =>
    simp only [since, step, stepObserve]
    split <;> rfl
  | readClock s =>
    simp only [since, step, stepClock]
    split <;> rfl
  | conclude s ending stage =>
    exact ending.step_since (Caller.since g) stage (.conclude s ending)
      (.returned (ending.verdict cfg.target s.mode))
  | _ => rfl

theorem Reset.step_since (r : Reset) :
    r.step (c.since g) = (r.step c).since g id := by
  cases r with
  | supersede =>
    simp only [step, Move.since, Cells.since, id]
    congr 2
    grind
  | _ => rfl

theorem Watch.step_since (t : Watch) :
    t.step (c.since g) (o.answer e t.request).1 =
      (t.step c (o.answer e t.request).1).since g id := by
  cases t with
  | watch =>
    simp only [step, stepWatch, Cells.since]
    split <;> rfl
  | readStatus =>
    have same : (c.since g).status = c.status := rfl
    simp only [step, stepStatus, same]
    by_cases failed : c.status.isFailure = true
    · simp only [if_pos failed]
      rfl
    · simp only [if_neg failed]
      rfl
  | checkToken | returned => rfl

/-- A step does not depend on where resets are counted from. -/
theorem Thread.step_since (t : Thread) :
    (t.since g).step cfg (c.since g) (o.answer e ((t.since g).request cfg)).1 =
      (t.step cfg c (o.answer e (t.request cfg)).1).since g (Thread.since g) := by
  cases t with
  | caller t => exact congrArg (Move.map Thread.caller) (t.step_since o e)
  | worker w => exact congrArg (Move.map Thread.worker) (w.step_since o e)
  | reset r => exact congrArg (Move.map Thread.reset) r.step_since
  | watcher t => exact congrArg (Move.map Thread.watcher) (t.step_since o e)

/-- What is asked does not depend on it either, but for the job of a worker. -/
theorem Thread.request_since (t : Thread) : (t.since g).request cfg = (t.request cfg).since g := by
  rcases t with t | t | t | t
  · cases t <;> rfl
  · cases t <;> rfl
  · rfl
  · cases t <;> rfl

/-- Nor whether a worker is started. -/
theorem Thread.started?_since (t : Thread) :
    (t.since g).started? cfg (o.answer e ((t.since g).request cfg)).1 =
      (t.started? cfg (o.answer e (t.request cfg)).1).map (Worker.since g) := by
  cases t with
  | caller t =>
    cases t with
    | startWorker s generation channel =>
      simp only [since, Caller.since, started?, Outside.answer]
      cases o.startThread e <;> rfl
    | _ => rfl
  | _ => rfl

/-- Nor what is dealt. -/
theorem dealings_since (t : Thread) :
    dealings (t.since g) (c.since g) (o.answer e ((t.since g).request cfg)).1 =
      (dealings t c (o.answer e (t.request cfg)).1).map (Dealing.since g) := by
  have silent : ((t.since g).request cfg).isSilent = (t.request cfg).isSilent := by
    rw [t.request_since]
    cases t.request cfg <;> rfl
  have asked (q : Request) : Dealing.asked (q.since g) (o.answer e (q.since g)).1 =
      (Dealing.asked q (o.answer e q).1).since g := by
    cases q <;> rfl
  have asks := asked (t.request cfg)
  rw [← t.request_since] at asks
  have gives : ((t.since g).step cfg (c.since g)
      (o.answer e ((t.since g).request cfg)).1).unsubscribed =
      (t.step cfg c (o.answer e (t.request cfg)).1).unsubscribed := by
    rw [t.step_since o e]
    rfl
  simp only [dealings, silent, asks, gives]
  split
  · cases (t.step cfg c (o.answer e (t.request cfg)).1).unsubscribed <;> rfl
  · rfl

namespace World

/-- A world without the threads from before, with resets counted from a given number. -/
def since (old : Nat) (g : UInt64) (w : World E) : World E where
  system :=
    { cells := w.system.cells.since g
      threads := (w.system.threads.drop old).map (·.since g) }
  outside := w.outside
  dealt := w.dealt.map fun (i, d) => (i - old, d.since g)

variable {w : World E} {old i : Nat} {t : Thread}

/-- The turn of a thread that has come since. -/
theorem since_turn (bound : old ≤ w.system.threads.length) :
    (w.turn cfg o (old + i) t).since old g = (w.since old g).turn cfg o i (t.since g) := by
  have left : (o.answer w.outside ((t.since g).request cfg)).2 =
      (o.answer w.outside (t.request cfg)).2 := by
    rw [t.request_since, o.answer_since]
  simp only [since, turn, System.advance, t.step_since o w.outside, t.started?_since o w.outside,
    dealings_since o w.outside t, left]
  congr 2
  · rw [map_drop_set_append _ bound, Option.map_map, Option.map_map]
    rfl
  · rw [List.map_append, Option.toList_map, Option.toList_map, List.map_map, Option.toList_map,
      List.map_map]
    simp [Function.comp_def]

end World

end Uplink.Readiness
