import Uplink.Proofs.Readiness.Admission
import Uplink.Proofs.Readiness.Lifecycle
import Uplink.Signal.Waiting

/-!
# Nobody is left waiting

A setup has many exits, and each of them has to settle the signal, or whoever waits for it waits in
vain. In a life without resets there is one thread at a time that owes this: it holds the cells, and
it cannot stop before an ending has made its last write. So once the admitted call has returned and
no worker is left, the cells are closed: the status is final and the signal tells everyone who looks.

Waiting for the signal is then a single look, whatever the limit is and whoever else waits.

## Main results

- `Gathering.await_of_verdict?`: a wait for a settled signal takes no time.
- `Phase.closed_of_finished`: where nobody is under way, an ending has closed the cells.
- `finished_is_resolved`: what a finished setup leaves behind.
-/

namespace Uplink

/-! ## Waiting for a settled signal -/

namespace Gathering

variable {g : Gathering} {result : Bool}

/-- A settled signal sends everybody back. -/
theorem exists_back_of_mem_settle (told : g.signal.verdict? = some result) {w : Waiter}
    (mem : w ∈ g.settle.waiters) : ∃ r, w = .back r := by
  obtain ⟨v, -, rfl⟩ := List.mem_map.mp mem
  cases v with
  | back r => exact ⟨r, rfl⟩
  | _ => exact ⟨result, by simp [Waiter.wake, Waiter.look, told]⟩

/-- Where everybody is back, no time passes and nobody moves. -/
theorem outwait_of_back (back : ∀ w ∈ g.waiters, ∃ r, w = .back r) : g.outwait = g := by
  have still : g.waiters.map (fun w => w.wake.look g.signal g.now) = g.waiters := by
    refine (List.map_congr_left fun w mem => ?_).trans (List.map_id _)
    obtain ⟨r, rfl⟩ := back w mem
    rfl
  rw [outwait, foldl_eq_self]
  · exact congrArg (fun ws => { g with waiters := ws }) still
  · intro w mem
    obtain ⟨r, rfl⟩ := back w mem
    rfl

/-- A wait for a settled signal ends with what the signal tells, and takes no time. -/
theorem await_of_verdict? (told : g.signal.verdict? = some result) (limit : Duration) :
    (g.await limit).2 = some result ∧ (g.await limit).1.now = g.now := by
  have there : ((g.arrive limit).settle).outwait = (g.arrive limit).settle :=
    outwait_of_back fun w mem => exists_back_of_mem_settle (g := g.arrive limit) told mem
  have last : ((g.arrive limit).settle).waiters.getLast? = some (.back result) := by
    simp [settle, arrive, Waiter.wake, Waiter.look, told]
  rw [await, there, last]
  exact ⟨rfl, rfl⟩

end Gathering

namespace Readiness

variable {cfg : Config}

/-! ## When everybody has finished -/

/-- An ending leaves a signal that tells whether the network is ready. -/
theorem Ending.verdict?_settle (e : Ending) :
    (e.settle .pending).verdict? = some (e.status == .ready) := by
  rcases e with _ | _ | (_ | _) | _ <;> rfl

/-- A caller that writes the cells got past the guard. -/
theorem Caller.isAdmitted_of_outlook? {t : Caller} (busy : t.outlook?.isSome = true) :
    t.isAdmitted = true := by
  cases t with
  | claim s => cases busy
  | returned v => cases busy
  | _ => rfl

namespace Phase

variable {s : System} {n : Nat}

/-- If a call was admitted, the admitted call has returned, and no worker runs, then an ending has
closed the cells. -/
theorem closed_of_finished (phase : Phase s) (account : s.Accounted 0) {i : Nat} {v : Verdict}
    (returned : s.threads[i]? = some (.caller (.returned v)))
    (admitted : v ≠ .refused .alreadySetUp) (ended : ∀ w, .worker w ∈ s.threads → w = .ended) :
    ∃ e, s.cells.ClosedBy e := by
  have past : (Thread.caller (.returned v)).isAdmitted = true := by
    cases v with
    | refused e =>
      cases e with
      | alreadySetUp => exact (admitted rfl).elim
      | noInterface target found => rfl
    | _ => rfl
  have most : s.admissions ≤ s.cells.claimed.toNat := by
    have := account.most
    omega
  cases phase with
  | vacant fresh _ =>
    -- Nobody was admitted while the claim is free.
    have none : s.admissions = 0 := by
      rw [fresh] at most
      exact Nat.le_zero.mp most
    exact (List.countP_eq_zero.mp none _ (List.mem_of_getElem? returned) past).elim
  | held k t there holds _ =>
    have busy := holds.not_isIdle
    rcases t with t | t | t | t
    · -- A second call that is past the guard would be one too many.
      have inside : (Thread.caller t).isAdmitted = true :=
        Caller.isAdmitted_of_outlook? (by simpa [Thread.isIdle] using busy)
      have few : s.threads.countP Thread.isAdmitted ≤ 1 :=
        Nat.le_trans most (Bool.toNat_le _)
      obtain rfl := eq_of_countP_le_one few there returned inside past
      cases there.symm.trans returned
      cases busy
    · obtain rfl := ended t (List.mem_of_getElem? there)
      cases busy
    · cases holds.shown
    · cases holds.shown
  | closed e closed _ => exact ⟨e, closed⟩

end Phase

/-- Without resets, whatever the outside replied and however the steps mixed: once the admitted call
has returned and no worker runs, because it has ended, was never needed or could not be started, the
status is final and the signal is settled. Whoever looks at the signal then is back at once, whatever
its deadline, and so is whoever begins to wait; and it passes exactly if the network is ready. -/
theorem finished_is_resolved {es : List (Event cfg)} {s : System} {v : Verdict} (calm : Calm es)
    (reached : System.run? {} es = some s) (returned : .caller (.returned v) ∈ s.threads)
    (admitted : v ≠ .refused .alreadySetUp) (ended : ∀ w, .worker w ∈ s.threads → w = .ended) :
    s.cells.status.isTerminal = true ∧ s.cells.ready ≠ .pending ∧
      (∀ now deadline, Waiter.look s.cells.ready now (.awake deadline) =
        .back (s.cells.status == .ready)) ∧
      ∀ (g : Gathering) limit, g.signal = s.cells.ready →
        (g.await limit).2 = some (s.cells.status == .ready) ∧ (g.await limit).1.now = g.now := by
  obtain ⟨i, there⟩ := List.mem_iff_getElem?.mp returned
  have account := System.Accounted.fresh.run? reached
  rw [calm.resetsIn_eq] at account
  obtain ⟨e, closed⟩ := (Phase.fresh.run? calm reached).closed_of_finished account there admitted
    ended
  obtain ⟨status, -, -⟩ := Outlook.mk.inj closed.shown
  have status : s.cells.status = e.status := status
  have told : s.cells.ready.verdict? = some (s.cells.status == .ready) := by
    rw [closed.settled, status]
    exact e.verdict?_settle
  refine ⟨status ▸ e.isTerminal_status, ?_, ?_, ?_⟩
  · intro pending
    rw [pending] at told
    cases told
  · intro now deadline
    simp only [Waiter.look, told]
  · intro g limit same
    exact g.await_of_verdict? (same ▸ told) limit

/-- A setup with events whose worker could not be started. -/
def unstarted : List (Event {}) :=
  (startOfWorker [⟨"eth0", .ethernet, .any, true⟩] "eth0").dropLast ++
    [.turn 0 (.caller (.startWorker subscribed 0 ⟨0⟩)) (.error (.ofMessage "out of threads")),
      .turn 0 (.caller (.conclude subscribed
        (.failed (.starting (.ofMessage "out of threads"))) .release)) (),
      .turn 0 (.caller (.conclude subscribed
        (.failed (.starting (.ofMessage "out of threads"))) .keepFault)) (),
      .turn 0 (.caller (.conclude subscribed
        (.failed (.starting (.ofMessage "out of threads"))) .publish)) (),
      .turn 0 (.caller (.conclude subscribed
        (.failed (.starting (.ofMessage "out of threads"))) .settle)) ()]

/-- Who waits for it without a limit is told at once that the network will not be ready. -/
theorem finished_is_resolved_unstarted : ∃ s : System, System.run? {} unstarted = some s ∧
    s.threads = [.caller (.returned .accepted)] ∧ s.cells.status.isTerminal = true ∧
    s.cells.ready ≠ .pending ∧
    (({ signal := s.cells.ready } : Gathering).await .longest).2 = some false := by
  obtain ⟨final, settled, -, wait⟩ := @finished_is_resolved {} unstarted _ .accepted
    (by decide) rfl (List.mem_singleton.mpr rfl) nofun
    (fun w mem => nomatch List.mem_singleton.mp mem)
  exact ⟨_, rfl, rfl, final, settled, (wait { signal := .abandoned } .longest rfl).1⟩

end Readiness

end Uplink
