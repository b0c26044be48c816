import Uplink.Readiness.Ending
import Uplink.Readiness.Probe

/-!
# The background worker of a setup

The worker looks at the interfaces once and then waits for an address change that shows the address.
Before it acts on anything it has waited for, it compares the count of resets with the one its setup
began with: a worker from before a reset stops.

## Main definitions

- `Worker`: the places of a worker, each named for the step that comes next.
- `Worker.request`, `Worker.step`: what that step asks of the outside, and what it does.
-/

namespace Uplink.Readiness

/-- The places of a worker, each named for the step that comes next. -/
inductive Worker where
  | look (j : Job)
  | receive (j : Job)
  /-- No change came in time: is this worker still wanted? -/
  | checkTimeout (j : Job)
  /-- The subscription has ended: is this worker still wanted? -/
  | checkClosed (j : Job)
  /-- Something failed: is this worker still wanted? -/
  | checkFault (j : Job) (f : Fault)
  /-- The address is there: is this worker still wanted? -/
  | checkAddress (j : Job)
  | observe (j : Job)
  | release (j : Job)
  /-- The wall clock is to be read: is this worker still wanted? -/
  | checkClock (j : Job)
  | readClock (j : Job)
  | clockPause (j : Job)
  /-- Everything is there: is this worker still wanted? -/
  | checkReady (j : Job)
  | conclude (j : Job) (e : Ending) (stage : Ending.Stage)
  | ended
  deriving DecidableEq, Repr

namespace Worker

/-- What the worker waits for. -/
def probe (cfg : Config) (j : Job) : Probe := ⟨cfg.target, j.desired⟩

/-- What is logged by a worker that stops because of a reset. -/
def supersededNotice : Log.Line := ⟨.debug, "readiness worker superseded by reset"⟩

/-- The worker goes nowhere any more. -/
def superseded (c : Cells) : Move Worker :=
  { cells := c, next := .ended, log := [supersededNotice] }

/-- The next step is the first write of an ending. -/
def ending (j : Job) (e : Ending) (c : Cells) : Move Worker :=
  { cells := c, next := .conclude j e e.firstStage, log := e.prologue }

/-- What the next step asks of the outside. -/
@[reducible] def request (cfg : Config) : Worker → Request
  | look _ => .listInterfaces
  | receive j => .receive j.channel cfg.pollInterval
  | readClock _ => .readClock
  | clockPause _ => .pause cfg.clockPollInterval
  | _ => .nothing

/-- The one look at the interfaces. -/
def stepLook (cfg : Config) (j : Job) (c : Cells)
    (reply : Except ErrorChain (List Interface)) : Move Worker :=
  match reply with
  | .error cause => { cells := c, next := .checkFault j (.looking cause) }
  | .ok interfaces =>
    { cells := c
      next := if (probe cfg j).satisfiedBy interfaces then .checkAddress j else .receive j }

/-- What the worker makes of the end of one wait for an address change. -/
def stepReceive (cfg : Config) (j : Job) (c : Cells) : Reception → Move Worker
  | .change ch =>
    { cells := c, next := if (probe cfg j).isMatch ch then .checkAddress j else .receive j }
  | .timeout => { cells := c, next := .checkTimeout j }
  | .closed => { cells := c, next := .checkClosed j }

/-- One step of a worker. -/
def step (cfg : Config) (c : Cells) : (t : Worker) → (t.request cfg).Reply → Move Worker
  | look j, reply => stepLook cfg j c reply
  | receive j, reply => stepReceive cfg j c reply
  | checkTimeout j, _ =>
    if c.generation = j.generation then { cells := c, next := .receive j } else superseded c
  | checkClosed j, _ =>
    if c.generation = j.generation then
      { cells := c, next := .checkFault j (.closed cfg.target) }
    else superseded c
  | checkFault j f, _ =>
    if c.generation = j.generation then ending j (.failed f) c
    else { cells := c, next := .ended }
  | checkAddress j, _ =>
    if c.generation = j.generation then { cells := c, next := .observe j } else superseded c
  | observe j, _ =>
    { cells := { c with addressObserved := c.addressObserved.raise }, next := .release j }
  | release j, _ =>
    if j.requiresClock then { c.release (.checkClock j) with log := [clockNotice] }
    else c.release (.checkReady j)
  | checkClock j, _ =>
    if c.generation = j.generation then { cells := c, next := .readClock j } else superseded c
  | readClock j, year =>
    { cells := c, next := if cfg.minYear ≤ year then .checkReady j else .clockPause j }
  | clockPause j, _ => { cells := c, next := .checkClock j }
  | checkReady j, _ =>
    if c.generation = j.generation then ending j .ready c else { cells := c, next := .ended }
  | conclude j e stage, _ => e.step cfg stage (.conclude j e) .ended c
  | ended, _ => { cells := c, next := .ended }

end Worker

end Uplink.Readiness
