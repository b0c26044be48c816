import Uplink.Cli.Report
import Uplink.Proofs.Readiness.Following

/-!
# What a watcher's answer is worth

Whoever has left the wait to a worker looks at three things in turn: at the signal, at the status if
the signal tells nothing, and at its own token. The worker goes on between any two of these looks.

A watcher that passes the signal finds the network ready, and one that is sent away or reads a
failure leaves a network that will not get ready. One that gives up because of its token promises
less: it has found the signal pending before it read the status. If the worker publishes its status
in between, the watcher reads that the network is ready, does not take it for an answer, and gives up
on a ready network; whoever then asks why is told that the wait was given up while the network is
ready.

## Main definitions

- `Glimpse`, `glimpses`: what a watcher gets to see in its turns.

## Main results

- `Watched.turn`, `Watched.later`: what a watcher knows, and what others leave it.
- `watcher_answer`: what an answer is worth.
- `watcher_gives_up_on_ready_network`: a watcher that reads `ready` and gives up.
-/

namespace Uplink.Readiness

variable {cfg : Config}

/-- What a watcher gets to see. -/
inductive Glimpse where
  | signal (g : Signal)
  | status (st : Status)
  | token (cancelled : Bool)
  deriving DecidableEq, Repr

/-- The glimpse of a turn. -/
def glimpses : Notebook cfg Glimpse := fun t c reply =>
  match t, reply with
  | .watcher .watch, _ => some (.signal c.ready)
  | .watcher .readStatus, _ => some (.status c.status)
  | .watcher .checkToken, cancelled => some (.token cancelled)
  | _, _ => none

/-- What a watcher's place and its glimpses say about the cells. -/
inductive Watched (c : Cells) : Thread → List Glimpse → Prop
  /-- A new round begins. -/
  | watching (seen : List Glimpse) : Watched c (.watcher .watch) seen
  /-- The signal told nothing. -/
  | pending (seen : List Glimpse) :
      Watched c (.watcher .readStatus) (seen ++ [.signal .pending])
  /-- The signal sent the watcher away, so there is a failure to be read. -/
  | abandoned (seen : List Glimpse) (failure : c.status.isFailure = true) :
      Watched c (.watcher .readStatus) (seen ++ [.signal .abandoned])
  /-- Neither signal nor status told anything that ends the watch. -/
  | undecided (seen : List Glimpse) {st : Status} (open_ : st.isFailure = false) :
      Watched c (.watcher .checkToken) (seen ++ [.signal .pending, .status st])
  /-- The signal let the watcher pass. -/
  | passed (seen : List Glimpse) (ready : c.status = .ready) :
      Watched c (.watcher (.returned true)) (seen ++ [.signal .set])
  /-- The status was a failure. -/
  | failed (seen : List Glimpse) {g : Signal} (failure : c.status.isFailure = true) :
      Watched c (.watcher (.returned false)) (seen ++ [.signal g, .status c.status])
  /-- The token was cancelled. -/
  | gaveUp (seen : List Glimpse) {st : Status} (open_ : st.isFailure = false) :
      Watched c (.watcher (.returned false)) (seen ++ [.signal .pending, .status st, .token true])

namespace Watched

variable {c d : Cells} {t : Thread} {seen : List Glimpse}

/-- A failure is final. -/
theorem isTerminal_of_isFailure {st : Status} (failure : st.isFailure = true) :
    st.isTerminal = true := by
  rw [Status.isFailure, Bool.and_eq_true] at failure
  exact failure.1

/-- What others do to the cells takes nothing away, as they change no outcome. -/
theorem later (watched : Watched c t seen) (same : c.status.isTerminal = true → c.SameOutcome d) :
    Watched d t seen := by
  cases watched with
  | watching seen => exact .watching seen
  | pending seen => exact .pending seen
  | abandoned seen failure =>
    have kept := (same (isTerminal_of_isFailure failure)).status
    exact .abandoned seen (kept ▸ failure)
  | undecided seen open_ => exact .undecided seen open_
  | passed seen ready =>
    have kept := (same (ready ▸ rfl)).status
    exact .passed seen (kept.trans ready)
  | failed seen failure =>
    have kept := (same (isTerminal_of_isFailure failure)).status
    rw [← kept]
    exact .failed seen (kept ▸ failure)
  | gaveUp seen open_ => exact .gaveUp seen open_

/-- What a turn of the watcher adds. -/
theorem turn (watched : Watched c t seen) (coherent : c.Coherent) (reply : (t.request cfg).Reply) :
    Watched (t.step cfg c reply).cells (t.step cfg c reply).next
      (seen ++ (glimpses t c reply).toList) := by
  cases watched with
  | watching seen =>
    have glimpse : glimpses (.watcher .watch) c reply = some (.signal c.ready) := rfl
    rw [glimpse]
    simp only [Thread.step, Watch.step, Watch.stepWatch]
    cases signal : c.ready with
    | set => exact .passed seen (coherent.ready_set signal).1
    | abandoned => exact .abandoned seen (coherent.ready_abandoned signal)
    | pending =>
      cases reply with
      | false => exact .watching _
      | true => exact .pending seen
  | pending seen =>
    have glimpse : glimpses (.watcher .readStatus) c reply = some (.status c.status) := rfl
    rw [glimpse, List.append_assoc]
    simp only [Thread.step, Watch.step, Watch.stepStatus]
    split
    · rename_i failure
      exact .failed seen failure
    · rename_i success
      exact .undecided seen (Bool.not_eq_true _ ▸ success)
  | abandoned seen failure =>
    have glimpse : glimpses (.watcher .readStatus) c reply = some (.status c.status) := rfl
    rw [glimpse, List.append_assoc]
    simp only [Thread.step, Watch.step, Watch.stepStatus, failure, if_true]
    exact .failed seen failure
  | undecided seen open_ =>
    have glimpse : glimpses (.watcher .checkToken) c reply = some (.token reply) := rfl
    rw [glimpse, List.append_assoc]
    cases reply with
    | false => exact .watching _
    | true => exact .gaveUp seen open_
  | passed seen ready =>
    rw [show (glimpses (.watcher (.returned true)) c reply).toList = [] from rfl, List.append_nil]
    exact .passed seen ready
  | failed seen failure =>
    rw [show (glimpses (.watcher (.returned false)) c reply).toList = [] from rfl, List.append_nil]
    exact .failed seen failure
  | gaveUp seen open_ =>
    rw [show (glimpses (.watcher (.returned false)) c reply).toList = [] from rfl, List.append_nil]
    exact .gaveUp seen open_

end Watched

/-- Without resets, whatever happens between the looks of a watcher: if it passes, the network is
ready; if it comes back without having passed, the status that it read last is a failure and stays
the status, or its token was cancelled, and then its last look at the signal, just before it read
that status, still found the signal pending. -/
theorem watcher_answer {start m s : System} {before es : List (Event cfg)} {i : Nat} {passed : Bool}
    (unclaimed : start.Unclaimed) (calm : Calm (before ++ es)) (reached : start.run? before = some m)
    (present : m.threads[i]? = some (.watcher .watch)) (run : m.run? es = some s)
    (ended : s.threads[i]? = some (.watcher (.returned passed))) :
    if passed then
      s.cells.status = .ready ∧ ∃ seen, m.noted i glimpses es = seen ++ [.signal .set]
    else
      (∃ seen g, m.noted i glimpses es = seen ++ [.signal g, .status s.cells.status] ∧
        s.cells.status.isFailure = true) ∨
      ∃ seen st, m.noted i glimpses es = seen ++ [.signal .pending, .status st, .token true] ∧
        st.isFailure = false := by
  have life := unclaimed.undisturbed.run? calm.left reached
  obtain ⟨t, found, -, watched⟩ := System.follow (fun e : Event cfg => e.isReset = false)
    (K := fun m t seen => m.Undisturbed ∧ Watched m.cells t seen)
    (fun reply there ⟨life, watched⟩ calm =>
      ⟨life.after? calm (System.after?_turn_eq_some.mpr ⟨there, rfl⟩),
        watched.turn life.coherent reply⟩)
    (fun _ ⟨life, watched⟩ calm _ after =>
      ⟨life.after? calm after, watched.later fun final => life.sameOutcome_after? final calm after⟩)
    present ⟨life, Watched.watching []⟩ calm.right run
  cases ended.symm.trans found
  generalize noted : m.noted i glimpses es = notes at watched ⊢
  rw [List.nil_append] at watched
  cases watched with
  | passed seen ready => exact ⟨ready, seen, rfl⟩
  | failed seen failure => exact .inl ⟨seen, _, rfl, failure⟩
  | gaveUp seen open_ => exact .inr ⟨seen, _, rfl, open_⟩

/-- A watcher that comes in when the worker has found the address, and goes through one round while
the network gets ready. -/
def watchedSuccess : List (Event {}) :=
  [.turn 1 (.worker (.look subscribedJob)) (.ok [⟨"eth0", .ethernet, .loopback, true⟩]),
    .turn 2 (.watcher .watch) true,
    .turn 1 (.worker (.checkAddress subscribedJob)) (),
    .turn 2 (.watcher .readStatus) (),
    .turn 1 (.worker (.observe subscribedJob)) (),
    .turn 1 (.worker (.release subscribedJob)) (),
    .turn 2 (.watcher .checkToken) false,
    .turn 1 (.worker (.checkReady subscribedJob)) (),
    .turn 1 (.worker (.conclude subscribedJob .ready .publish)) (),
    .turn 1 (.worker (.conclude subscribedJob .ready .settle)) (),
    .turn 2 (.watcher .watch) false]

/-- A worker, and a watcher that has just come in. -/
def withWatcher : System where
  cells := { claimed := true, status := .started, subscription := some ⟨0⟩ }
  threads := [.caller (.returned .accepted), .worker (.look subscribedJob), .watcher .watch]

/-- That watcher passes, and the network is ready. -/
theorem watcher_answer_passed : ∃ s : System,
    System.run? {} (startOfWorker [⟨"eth0", .ethernet, .loopback, true⟩] "eth0" ++
      [.enter .watch]) = some withWatcher ∧
    withWatcher.run? watchedSuccess = some s ∧
    s.threads[2]? = some (.watcher (.returned true)) ∧ s.cells.status = .ready ∧
    ∃ seen, [.signal .pending, .status .started, .token false, .signal .set] =
      seen ++ [Glimpse.signal .set] := by
  obtain ⟨ready, seen⟩ := @watcher_answer {} {} withWatcher _
    (startOfWorker [⟨"eth0", .ethernet, .loopback, true⟩] "eth0" ++ [.enter .watch]) watchedSuccess
    2 true .fresh (by decide) rfl rfl rfl rfl
  exact ⟨_, rfl, rfl, rfl, ready, seen⟩

/-- The worker publishes its status between the watcher's look at the signal and its look at the
status, and settles the signal before the watcher looks at its token. -/
def readyInTheGap : List (Event {}) :=
  startOfWorker [⟨"eth0", .ethernet, .loopback, true⟩] "eth0" ++
    [.enter .watch,
      .turn 1 (.worker (.look subscribedJob)) (.ok [⟨"eth0", .ethernet, .loopback, true⟩]),
      .turn 1 (.worker (.checkAddress subscribedJob)) (),
      .turn 1 (.worker (.observe subscribedJob)) (),
      .turn 1 (.worker (.release subscribedJob)) (),
      .turn 1 (.worker (.checkReady subscribedJob)) (),
      .turn 2 (.watcher .watch) true,
      .turn 1 (.worker (.conclude subscribedJob .ready .publish)) (),
      .turn 1 (.worker (.conclude subscribedJob .ready .settle)) (),
      .turn 2 (.watcher .readStatus) (),
      .turn 2 (.watcher .checkToken) true]

/-- A watcher gives up on a network that is ready, although it has read so, and the reason that is
told contradicts itself. -/
theorem watcher_gives_up_on_ready_network : ∃ s : System,
    Calm readyInTheGap ∧ System.run? {} readyInTheGap = some s ∧
      s.threads[2]? = some (.watcher (.returned false)) ∧
      System.noted 2 glimpses {} readyInTheGap =
        [.signal .pending, .status .ready, .token true] ∧
      s.cells.status = .ready ∧ s.cells.ready = .set ∧
      Report.notReady s.cells.status s.cells.lastError =
        "gave up waiting for the network: timed out or interrupted while network is ready" :=
  ⟨_, by decide, rfl, rfl, rfl, rfl, rfl, rfl⟩

end Uplink.Readiness
