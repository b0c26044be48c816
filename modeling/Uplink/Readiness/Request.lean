import Uplink.Duration
import Uplink.Interface
import Uplink.Log
import Uplink.Network.Command
import Uplink.Readiness.Cells

/-!
# What threads ask of the outside

A thread of a coordinator goes on in single steps. In each step it may ask one thing of the outside:
of the network, the wall clock, the cancel token, or of time itself. The step then goes on with the
reply. A step that asks nothing only touches the cells.

## Main definitions

- `Job`: what a background worker is started with.
- `Request`, `Request.Reply`: the questions, and what a reply to each looks like.
- `Move`: what a step leads to.
-/

namespace Uplink.Readiness

/-- What a background worker is started with. -/
structure Job where
  /-- The subscription whose address changes it receives. -/
  channel : SubscriptionId
  /-- The address of the static configuration, if there is one. -/
  desired : Option Address
  requiresClock : Bool
  /-- The count of resets when the setup began. -/
  generation : UInt64
  deriving DecidableEq, Repr

/-- What a worker finds when it waits for an address change. -/
inductive Reception where
  | change (c : AddressChange)
  /-- None came in time. -/
  | timeout
  /-- None will come any more. -/
  | closed
  deriving DecidableEq, Repr

/-- What a thread asks of the outside in its next step. -/
inductive Request where
  | listInterfaces
  | subscribe
  | command (c : NetworkCommand)
  /-- The next address change of a subscription, to come within a limit. -/
  | receive (channel : SubscriptionId) (limit : Duration)
  /-- The year that the wall clock shows. -/
  | readClock
  /-- Whether the cancel token is cancelled. -/
  | readToken
  | startWorker (j : Job)
  | pause (d : Duration)
  /-- Whether a limit has passed while the signal was watched. -/
  | watch (limit : Duration)
  | nothing
  deriving DecidableEq, Repr

/-- What a reply looks like. -/
@[reducible] def Request.Reply : Request → Type
  | listInterfaces => Except ErrorChain (List Interface)
  | subscribe => Except ErrorChain SubscriptionId
  | command _ => Except ErrorChain Unit
  | receive .. => Reception
  | readClock => Int
  | readToken => Bool
  | startWorker _ => Except ErrorChain Unit
  | pause _ => Unit
  | watch _ => Bool
  | nothing => Unit

/-- What a step leads to: the cells, where the thread goes on, the subscription it gave back and
the lines it logged. -/
structure Move (Place : Type) where
  cells : Cells
  next : Place
  unsubscribed : Option SubscriptionId := none
  log : List Log.Line := []

namespace Move

/-- The same step for a thread that is part of something larger. -/
def map {A B : Type} (f : A → B) (m : Move A) : Move B :=
  { cells := m.cells, next := f m.next, unsubscribed := m.unsubscribed, log := m.log }

@[simp] theorem cells_map {A B : Type} (f : A → B) (m : Move A) : (m.map f).cells = m.cells := rfl

@[simp] theorem next_map {A B : Type} (f : A → B) (m : Move A) : (m.map f).next = f m.next := rfl

@[simp] theorem unsubscribed_map {A B : Type} (f : A → B) (m : Move A) :
    (m.map f).unsubscribed = m.unsubscribed := rfl

end Move

/-- Gives the subscription back, if there is one. Taking it from its cell and ending it is one
step: the cell is locked throughout. -/
def Cells.release {Place : Type} (c : Cells) (next : Place) : Move Place :=
  { cells := { c with subscription := none }, next, unsubscribed := c.subscription }

end Uplink.Readiness
