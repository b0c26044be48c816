import Uplink.Readiness.Request

/-!
# Resets

A reset takes a coordinator back to where it began. It first counts itself, which supersedes every
worker there is, and opens the coordinator to a new setup last.
-/

namespace Uplink.Readiness

/-- The writes of a reset; each names the one that comes next. -/
inductive Reset where
  | supersede
  | release
  | clearReady
  | clearAddress
  | forgetFault
  | forgetConfiguration
  | clearStatus
  | reopen
  | done
  deriving DecidableEq, Repr

namespace Reset

/-- One write of a reset. -/
def step (c : Cells) : Reset → Move Reset
  | supersede => { cells := { c with generation := c.generation + 1 }, next := release }
  | release => c.release clearReady
  | clearReady => { cells := { c with ready := c.ready.clear }, next := clearAddress }
  | clearAddress =>
    { cells := { c with addressObserved := c.addressObserved.clear }, next := forgetFault }
  | forgetFault => { cells := { c with fault := none }, next := forgetConfiguration }
  | forgetConfiguration => { cells := { c with applied := none }, next := clearStatus }
  | clearStatus => { cells := { c with status := .idle }, next := reopen }
  | reopen =>
    { cells := { c with claimed := false }
      next := done
      log := [⟨.debug, "readiness coordinator reset"⟩] }
  | done => { cells := c, next := done }

end Reset

end Uplink.Readiness
