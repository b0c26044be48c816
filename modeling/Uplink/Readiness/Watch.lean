import Uplink.Readiness.Request

/-!
# Waiting for the network from outside

Whoever has left the wait to a worker watches the signal for a while, looks at the status if nothing
came, then at its own cancel token, and starts over. The three looks are steps of their own: the
worker may go on between any two of them.
-/

namespace Uplink.Readiness

/-- The places of a watching thread, each named for the step that comes next. -/
inductive Watch where
  | watch
  | readStatus
  | checkToken
  | returned (ready : Bool)
  deriving DecidableEq, Repr

namespace Watch

/-- How long the signal is watched before the status and the token are looked at. -/
def spell : Duration := .ofMillis 250

/-- What the next step asks of the outside. -/
@[reducible] def request : Watch → Request
  | watch => .watch spell
  | checkToken => .readToken
  | _ => .nothing

/-- A look at the signal: a set signal ends the watch, one that is abandoned or was watched long
enough sends the watcher to the status. -/
def stepWatch (c : Cells) (late : Bool) : Move Watch :=
  match c.ready.verdict? with
  | some true => { cells := c, next := .returned true }
  | some false => { cells := c, next := .readStatus }
  | none => { cells := c, next := if late then .readStatus else .watch }

/-- A failure ends the watch. -/
def stepStatus (c : Cells) : Move Watch :=
  if c.status.isFailure then
    { cells := c
      next := .returned false
      log := [⟨.debug, s!"coordinator stopped in {c.status.text}"⟩] }
  else { cells := c, next := .checkToken }

/-- One step of a watching thread. -/
def step (c : Cells) : (t : Watch) → t.request.Reply → Move Watch
  | watch, late => stepWatch c late
  | readStatus, _ => stepStatus c
  | checkToken, cancelled =>
    { cells := c, next := if cancelled then .returned false else .watch }
  | returned ready, _ => { cells := c, next := .returned ready }

end Watch

end Uplink.Readiness
