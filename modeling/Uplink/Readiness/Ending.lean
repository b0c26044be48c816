import Uplink.Readiness.Config
import Uplink.Readiness.Request

/-!
# How a setup ends

A setup that was admitted ends in one of four ways. Each publishes its status and settles the signal
that callers wait for; a cancelled or failed setup first gives back its subscription, and a failed
one keeps its fault before anyone can see its status.

## Main definitions

- `Ending`: the four ways.
- `Ending.Stage`: the writes of an ending, in their order; `Ending.step` is one of them.
-/

namespace Uplink.Readiness

/-- The two things a setup waits for. -/
inductive Awaited where
  | address
  | clock
  deriving DecidableEq, Repr

/-- What is logged before the wall clock is read for the first time. -/
def clockNotice : Log.Line := ⟨.debug, "address ready, waiting for a plausible clock"⟩

/-- How a setup ends. -/
inductive Ending where
  | ready
  | noInterface (found : Nat)
  /-- The token was cancelled during a wait. -/
  | expired (awaited : Awaited)
  | failed (f : Fault)
  deriving DecidableEq, Repr

namespace Ending

/-- The status that an ending publishes. -/
def status : Ending → Status
  | ready => .ready
  | noInterface _ => .noInterface
  | expired .address => .expiredForAddress
  | expired .clock => .expiredForClock
  | failed _ => .faulted

/-- What an ending does to the signal: it is set if the network is ready, else abandoned. -/
def settle : Ending → Signal → Signal
  | ready, s => s.raise
  | _, s => s.abandon

/-- The writes of an ending; each names the one that comes next. -/
inductive Stage where
  | release
  | keepFault
  | publish
  | settle
  deriving DecidableEq, Repr

/-- The first write of an ending. -/
def firstStage : Ending → Stage
  | ready | noInterface _ => .publish
  | expired _ | failed _ => .release

/-- What is logged before the first write. -/
def prologue : Ending → List Log.Line
  | failed f => [⟨.error, s!"network setup failed: {f.chain.line}"⟩]
  | _ => []

/-- What is logged after the last write. -/
def epilogue (target : InterfaceKind) : Ending → List Log.Line
  | ready => [⟨.info, s!"network is ready on the {target.text} interface"⟩]
  | noInterface found => [⟨.error, (SetupError.noInterface target found).message⟩]
  | expired awaited => [⟨.warn, s!"network setup {(expired awaited).status.text}"⟩]
  | failed _ => []

/-- One write of an ending: `again` is where the thread goes on while writes are left, `after` where
it goes when there are none. -/
def step {Place : Type} (cfg : Config) (e : Ending) (stage : Stage) (again : Stage → Place)
    (after : Place) (c : Cells) : Move Place :=
  match stage with
  | .release =>
    c.release (match e with
      | failed _ => again .keepFault
      | _ => again .publish)
  | .keepFault =>
    { cells := { c with fault := (match e with
        | failed f => some f
        | _ => c.fault) }
      next := again .publish }
  | .publish => { cells := { c with status := e.status }, next := again .settle }
  | .settle =>
    { cells := { c with ready := e.settle c.ready }, next := after, log := e.epilogue cfg.target }

end Ending

end Uplink.Readiness
