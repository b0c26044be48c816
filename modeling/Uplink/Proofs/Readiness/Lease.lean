import Uplink.Proofs.Readiness.Following

/-!
# The subscription of a setup

A setup with events takes one subscription and owes it back. The cell that keeps it is written by
two threads: the caller puts the identifier in, and the thread that holds the cells later, which may
be the worker, takes it out. Between the call that made the subscription and the write that keeps it
only the place of the caller tells that there is one.

So what is owed can be read off the place of the thread that holds the cells, together with the
cell. Each of its turns takes a subscription when it has none, gives back the one it has, or leaves
things as they are.

## Main definitions

- `Thread.kept`: what the cell holds while a thread stands at its place; `Thread.Keeps` says that
  it does.
- `Thread.live?`: the subscription that was taken and not given back.
- `Lease`: a subscription is taken or given back; `leases` notes it.

## Main results

- `Thread.Keeps.step`: the cell goes with the place of the heir.
- `Thread.Keeps.transfer`: what a turn does to the subscription that is owed.
-/

namespace Uplink.Readiness

variable {cfg : Config} {c : Cells}

/-- The subscription that a route waits with. -/
def Route.channel? : Route → Option SubscriptionId
  | events _ channel => some channel
  | polling => none

/-- What the cell of the subscription holds while a caller stands at its place. A setup may fail
with a subscription or without one, so at the first write of an ending it is whatever there is. -/
def Caller.kept (c : Cells) : Caller → Option SubscriptionId
  | assign _ r _ | setServers _ r _ | keepConfiguration _ r | settle _ r => r.channel?
  | startWorker _ _ channel => some channel
  | conclude _ _ .release => c.subscription
  | _ => none

/-- What the cell of the subscription holds while a worker stands at its place. -/
def Worker.kept (c : Cells) : Worker → Option SubscriptionId
  | look j | receive j | checkTimeout j | checkClosed j | checkFault j _ | checkAddress j
  | observe j | release j => some j.channel
  | conclude _ _ .release => c.subscription
  | _ => none

/-- The subscription that a caller has got and not kept yet. -/
def Caller.booked? : Caller → Option SubscriptionId
  | keepSubscription _ _ _ id => some id
  | _ => none

namespace Thread

/-- What the cell of the subscription holds while a thread stands at its place, if this thread holds
the cells. -/
def kept (c : Cells) : Thread → Option SubscriptionId
  | caller t => t.kept c
  | worker t => t.kept c
  | _ => none

/-- The cell of the subscription is as the place of a thread promises. -/
def Keeps (t : Thread) (c : Cells) : Prop := c.subscription = t.kept c

/-- The subscription that a thread has got and not kept yet. -/
def booked? : Thread → Option SubscriptionId
  | caller t => t.booked?
  | _ => none

/-- The subscription that was taken and not given back, while this thread holds the cells. -/
def live? (c : Cells) (t : Thread) : Option SubscriptionId := t.booked?.or c.subscription

end Thread

/-- A subscription is taken, or given back. -/
inductive Lease where
  | taken (id : SubscriptionId)
  | given (id : SubscriptionId)
  deriving DecidableEq, Repr

/-- Notes the subscriptions that turns take and give back. -/
def leases : Notebook cfg Lease
  | .caller (.subscribe ..), _, .ok id => some (.taken id)
  | t, c, reply => (t.step cfg c reply).unsubscribed.map .given

/-- What is owed before and after a turn, by what is noted of it. -/
inductive Lease.Transfer : Option SubscriptionId → Option Lease → Option SubscriptionId → Prop
  | same (live? : Option SubscriptionId) : Transfer live? none live?
  | takes (id : SubscriptionId) : Transfer none (some (.taken id)) (some id)
  | gives (id : SubscriptionId) : Transfer (some id) (some (.given id)) none

/-- Whatever was owed is given back. -/
theorem Lease.Transfer.giveBack (live? : Option SubscriptionId) :
    Transfer live? (live?.map .given) none := by
  cases live? with
  | none => exact .same none
  | some id => exact .gives id

/-! ## The cell -/

namespace Thread.Keeps

/-- One turn of the caller that holds the cells. -/
theorem step_caller {t : Caller} (keeps : (caller t).Keeps c) (holds : (caller t).Holds c)
    (reply : (t.request cfg).Reply) :
    ((caller t).heir cfg c reply).Keeps ((caller t).step cfg c reply).cells := by
  cases t with
  | claim s => cases holds.shown
  | returned v => cases holds.shown
  | find s a =>
    cases reply with
    | error cause => rfl
    | ok interfaces =>
      simp only [heir, started?, Thread.step, Caller.step, Caller.stepFind]
      split
      · exact keeps
      · cases a <;> exact keeps
  | subscribe | assign | setServers | startWorker =>
    cases reply with
    | error cause => rfl
    | ok _ => exact keeps
  | keepSubscription => rfl
  | settle s r => cases r <;> exact keeps
  | checkToken | checkTokenForClock =>
    cases reply with
    | false => exact keeps
    | true => rfl
  | poll s =>
    cases reply with
    | error cause => rfl
    | ok interfaces =>
      simp only [heir, started?, Thread.step, Caller.step, Caller.stepPoll]
      split <;> exact keeps
  | observe s =>
    simp only [heir, started?, Thread.step, Caller.step, Caller.stepObserve]
    split <;> exact keeps
  | readClock s =>
    simp only [heir, started?, Thread.step, Caller.step, Caller.stepClock]
    split <;> exact keeps
  | conclude s e stage =>
    cases stage with
    | release => cases e <;> rfl
    | _ => exact keeps
  | _ => exact keeps

/-- One turn of the worker that holds the cells; it passes each of its checks. -/
theorem step_worker {w : Worker} (keeps : (worker w).Keeps c) (holds : (worker w).Holds c)
    (reply : (w.request cfg).Reply) :
    (worker (w.step cfg c reply).next).Keeps (w.step cfg c reply).cells := by
  have current {j : Job} (job : w.job? = some j) : c.generation = j.generation :=
    holds.generation_eq job
  cases w with
  | ended => cases holds.shown
  | look j =>
    cases reply with
    | error cause => exact keeps
    | ok interfaces =>
      simp only [Worker.step, Worker.stepLook]
      split <;> exact keeps
  | receive j =>
    cases reply with
    | change ch =>
      simp only [Worker.step, Worker.stepReceive]
      split <;> exact keeps
    | timeout => exact keeps
    | closed => exact keeps
  | checkTimeout | checkClosed | checkAddress | checkClock =>
    simp only [Worker.step, current rfl, if_true]
    exact keeps
  | checkFault =>
    simp only [Worker.step, current rfl, if_true]
    rfl
  | release j =>
    simp only [Worker.step]
    split <;> rfl
  | readClock j =>
    simp only [Worker.step]
    split <;> exact keeps
  | checkReady =>
    simp only [Worker.step, current rfl, if_true]
    exact keeps
  | conclude j e stage =>
    cases stage with
    | release => cases e <;> rfl
    | _ => exact keeps
  | _ => exact keeps

/-- One turn of the thread that holds the cells: the cell goes with the place of its heir. -/
theorem step {t : Thread} (keeps : t.Keeps c) (holds : t.Holds c) (reply : (t.request cfg).Reply) :
    (t.heir cfg c reply).Keeps (t.step cfg c reply).cells := by
  cases t with
  | caller t => exact step_caller keeps holds reply
  | worker w => exact step_worker keeps holds reply
  | reset t => cases holds.shown
  | watcher t => cases holds.shown

end Thread.Keeps

/-! ## What is owed -/

namespace Thread.Keeps

/-- What one turn of a caller does to the subscription that is owed. -/
theorem transfer_caller {t : Caller} (keeps : (caller t).Keeps c) (reply : (t.request cfg).Reply) :
    Lease.Transfer ((caller t).live? c) (leases (caller t) c reply)
      (((caller t).heir cfg c reply).live? ((caller t).step cfg c reply).cells) := by
  cases t with
  | subscribe s generation interface =>
    cases reply with
    | error cause => exact .same _
    | ok id =>
      have vacant : c.subscription = none := keeps
      simp only [live?, booked?, Caller.booked?, Option.none_or, vacant]
      exact .takes id
  | claim s =>
    simp only [leases, heir, started?, Thread.step, Caller.step, Caller.stepClaim]
    split
    · exact .same _
    · cases mode : s.mode <;> exact .same _
  | find s a =>
    cases reply with
    | error cause => exact .same _
    | ok interfaces =>
      simp only [leases, heir, started?, Thread.step, Caller.step, Caller.stepFind]
      split
      · exact .same _
      · cases a <;> exact .same _
  | assign | setServers | startWorker | checkToken | checkTokenForClock =>
    cases reply <;> exact .same _
  | settle s r => cases r <;> exact .same _
  | poll s =>
    cases reply with
    | error cause => exact .same _
    | ok interfaces =>
      simp only [leases, heir, started?, Thread.step, Caller.step, Caller.stepPoll]
      split <;> exact .same _
  | observe s =>
    simp only [leases, heir, started?, Thread.step, Caller.step, Caller.stepObserve]
    split <;> exact .same _
  | readClock s =>
    simp only [leases, heir, started?, Thread.step, Caller.step, Caller.stepClock]
    split <;> exact .same _
  | conclude s e stage =>
    cases stage with
    | release => cases e <;> exact .giveBack _
    | _ => exact .same _
  | _ => exact .same _

end Thread.Keeps

/-- What one turn of a worker does to the subscription that is owed. -/
theorem Worker.transfer (w : Worker) (reply : (w.request cfg).Reply) :
    Lease.Transfer c.subscription (leases (.worker w) c reply)
      (w.step cfg c reply).cells.subscription := by
  have given : leases (.worker w) c reply = (w.step cfg c reply).unsubscribed.map .given := rfl
  rw [given, w.unsubscribed_step, w.cells_step]
  cases w with
  | release j => exact .giveBack _
  | conclude j e stage =>
    cases stage with
    | release => exact .giveBack _
    | _ => exact .same _
  | _ => exact .same _

/-- What one turn of a reset does to it. -/
theorem Reset.transfer (t : Reset) :
    Lease.Transfer c.subscription ((t.step c).unsubscribed.map .given) (t.step c).cells.subscription := by
  cases t with
  | release => exact .giveBack _
  | _ => exact .same _

/-- What a turn of the thread that holds the cells does to the subscription that is owed. -/
theorem Thread.Keeps.transfer {t : Thread} (keeps : t.Keeps c) (holds : t.Holds c)
    (reply : (t.request cfg).Reply) :
    Lease.Transfer (t.live? c) (leases t c reply)
      ((t.heir cfg c reply).live? (t.step cfg c reply).cells) := by
  cases t with
  | caller t => exact keeps.transfer_caller reply
  | worker w => exact w.transfer reply
  | reset t => cases holds.shown
  | watcher t => cases holds.shown

/-- Nothing is owed any more once the status is final. -/
theorem Thread.Keeps.live?_eq_none {t : Thread} (keeps : t.Keeps c) (holds : t.Holds c)
    (final : c.status.isTerminal = true) : t.live? c = none := by
  have shown := holds.shown
  have final : c.outlook.status.isTerminal = true := final
  have vacant {e : Ending} {stage : Ending.Stage} (same : e.outlook stage = c.outlook)
      (keeps : stage ≠ .release → c.subscription = none) : c.subscription = none := by
    obtain rfl := Ending.stage_of_isTerminal (same ▸ final)
    exact keeps nofun
  rcases t with t | t | t | t
  · cases t with
    | conclude s e stage =>
      refine vacant (Option.some.inj shown) fun other => ?_
      cases stage with
      | release => exact (other rfl).elim
      | _ => exact keeps
    | claim s => cases shown
    | returned v => cases shown
    | _ =>
      rw [← Option.some.inj shown] at final
      cases final
  · cases t with
    | conclude j e stage =>
      refine vacant (Option.some.inj shown) fun other => ?_
      cases stage with
      | release => exact (other rfl).elim
      | _ => exact keeps
    | ended => cases shown
    | _ =>
      rw [← Option.some.inj shown] at final
      cases final
  · cases shown
  · cases shown

/-- Nor where nobody is busy any more. -/
theorem Thread.Keeps.subscription_of_isIdle {t : Thread} (keeps : t.Keeps c)
    (idle : t.isIdle = true) : c.subscription = none ∧ t.booked? = none := by
  rcases t with t | t | t | t
  · cases t with
    | claim s => exact ⟨keeps, rfl⟩
    | returned v => exact ⟨keeps, rfl⟩
    | _ => cases idle
  · cases t with
    | ended => exact ⟨keeps, rfl⟩
    | _ => cases idle
  · exact ⟨keeps, rfl⟩
  · exact ⟨keeps, rfl⟩

end Uplink.Readiness
