import Uplink.Readiness.System

/-!
# What a step writes

Most steps of a coordinator's threads only ask or look. Those that write are few, and what they
write depends on the place of the thread alone, never on the reply that it gets: replies decide
where a thread goes on, places decide what it writes.

## Main definitions

- `Thread.written`: the cells after a step, by the place of the thread.
- `Thread.releases`: the places from which a subscription is given back.

## Main results

- `Thread.cells_step`, `Thread.unsubscribed_step`: these are the writes.
-/

namespace Uplink.Readiness

/-- The cells after a write of an ending. -/
def Ending.written (e : Ending) (c : Cells) : Stage → Cells
  | .release => { c with subscription := none }
  | .keepFault =>
    { c with fault := (match e with
        | failed f => some f
        | _ => c.fault) }
  | .publish => { c with status := e.status }
  | .settle => { c with ready := e.settle c.ready }

/-- The cells after a step of a caller. -/
def Caller.written (c : Cells) : Caller → Cells
  | claim _ => { c with claimed := true }
  | start .. => { c with status := .started }
  | keepSubscription _ _ _ id => { c with subscription := some id }
  | keepConfiguration s _ => { c with applied := s.configuration }
  | observe _ => { c with addressObserved := .set }
  | conclude _ e stage => e.written c stage
  | _ => c

/-- The cells after a step of a worker. -/
def Worker.written (c : Cells) : Worker → Cells
  | observe _ => { c with addressObserved := .set }
  | release _ => { c with subscription := none }
  | conclude _ e stage => e.written c stage
  | _ => c

/-- Whether a step of a caller gives the subscription back. -/
def Caller.releases : Caller → Bool
  | conclude _ _ .release => true
  | _ => false

/-- Whether a step of a worker does. -/
def Worker.releases : Worker → Bool
  | release _ | conclude _ _ .release => true
  | _ => false

namespace Thread

/-- The cells after a step of a thread. -/
def written (c : Cells) : Thread → Cells
  | caller t => t.written c
  | worker t => t.written c
  | reset t => (t.step c).cells
  | watcher _ => c

/-- Whether a step gives the subscription back. -/
def releases : Thread → Bool
  | caller t => t.releases
  | worker t => t.releases
  | reset t => t == .release
  | watcher _ => false

end Thread

variable {cfg : Config}

theorem Ending.cells_step {Place : Type} (e : Ending) (stage : Stage) (again : Stage → Place)
    (after : Place) (c : Cells) : (e.step cfg stage again after c).cells = e.written c stage := by
  cases stage <;> rfl

theorem Caller.cells_step (c : Cells) (t : Caller) (reply : (t.request cfg).Reply) :
    (t.step cfg c reply).cells = t.written c := by
  cases t with
  | claim s =>
    simp only [step, stepClaim, written]
    split
    · rename_i claimed
      rw [← claimed]
    · rfl
  | find s a =>
    simp only [step, stepFind]
    split
    · rfl
    · split
      · rfl
      · split <;> rfl
  | subscribe | assign | setServers | startWorker | checkToken | poll | checkTokenForClock =>
    cases reply <;> rfl
  | settle s r => cases r <;> rfl
  | observe s =>
    simp only [step, stepObserve]
    split <;> rfl
  | readClock s =>
    simp only [step, stepClock]
    split <;> rfl
  | conclude s e stage => exact e.cells_step stage _ _ c
  | _ => rfl

theorem Worker.cells_step (c : Cells) (t : Worker) (reply : (t.request cfg).Reply) :
    (t.step cfg c reply).cells = t.written c := by
  cases t with
  | look | receive => cases reply <;> rfl
  | checkTimeout | checkClosed | checkFault | checkAddress | release | checkClock | checkReady =>
    simp only [step]
    split <;> rfl
  | conclude j e stage => exact e.cells_step stage _ _ c
  | _ => rfl

theorem Caller.unsubscribed_step (c : Cells) (t : Caller) (reply : (t.request cfg).Reply) :
    (t.step cfg c reply).unsubscribed = if t.releases then c.subscription else none := by
  cases t with
  | claim s =>
    simp only [step, stepClaim]
    split <;> rfl
  | find s a =>
    simp only [step, stepFind]
    split
    · rfl
    · split
      · rfl
      · split <;> rfl
  | subscribe | assign | setServers | startWorker | checkToken | poll | checkTokenForClock =>
    cases reply <;> rfl
  | settle s r => cases r <;> rfl
  | observe s =>
    simp only [step, stepObserve]
    split <;> rfl
  | readClock s =>
    simp only [step, stepClock]
    split <;> rfl
  | conclude s e stage => cases stage <;> rfl
  | _ => rfl

theorem Worker.unsubscribed_step (c : Cells) (t : Worker) (reply : (t.request cfg).Reply) :
    (t.step cfg c reply).unsubscribed = if t.releases then c.subscription else none := by
  cases t with
  | look | receive => cases reply <;> rfl
  | checkTimeout | checkClosed | checkFault | checkAddress | release | checkClock | checkReady =>
    simp only [step]
    split <;> rfl
  | conclude j e stage => cases stage <;> rfl
  | _ => rfl

theorem Watch.cells_step (c : Cells) (t : Watch) (reply : t.request.Reply) :
    (t.step c reply).cells = c := by
  cases t with
  | watch =>
    simp only [step, stepWatch]
    split <;> rfl
  | readStatus =>
    simp only [step, stepStatus]
    split <;> rfl
  | checkToken => rfl
  | returned ready => rfl

theorem Watch.unsubscribed_step (c : Cells) (t : Watch) (reply : t.request.Reply) :
    (t.step c reply).unsubscribed = none := by
  cases t with
  | watch =>
    simp only [step, stepWatch]
    split <;> rfl
  | readStatus =>
    simp only [step, stepStatus]
    split <;> rfl
  | checkToken => rfl
  | returned ready => rfl

/-- What a step writes. -/
theorem Thread.cells_step (c : Cells) (t : Thread) (reply : (t.request cfg).Reply) :
    (t.step cfg c reply).cells = t.written c := by
  cases t with
  | caller t => exact t.cells_step c reply
  | worker t => exact t.cells_step c reply
  | reset t => rfl
  | watcher t => exact t.cells_step c reply

/-- What a step gives back. -/
theorem Thread.unsubscribed_step (c : Cells) (t : Thread) (reply : (t.request cfg).Reply) :
    (t.step cfg c reply).unsubscribed = if t.releases then c.subscription else none := by
  cases t with
  | caller t => exact t.unsubscribed_step c reply
  | worker t => exact t.unsubscribed_step c reply
  | reset t => cases t <;> rfl
  | watcher t => exact t.unsubscribed_step c reply

end Uplink.Readiness
