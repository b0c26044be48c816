import Uplink.Proofs.Readiness.Outlook
import Uplink.Proofs.Readiness.Run

/-!
# Workers from before a reset

A reset supersedes every worker there is by counting itself. A worker compares the count with its
own before it acts, but looking and acting are steps of their own: a reset that comes in between
finds the worker past its check, and the worker carries out the act that it is in. What the count
does promise is that this act is the last one. A worker that is not in the middle of an act when it
is superseded writes nothing any more and gives nothing back.

## Main definitions

- `Worker.writesLeft`: how many writes the act that a worker is in has left, at most.
- `supersessions`: how many resets have counted themselves during a run.
- `Cells.Behind`: a job is so many resets behind.

## Main results

- `System.generation_run?`: the count is that of the resets.
- `Worker.step_of_stale`: a superseded worker comes one write nearer to the end of its act, or
  writes nothing.
- `superseded_worker`: so it is for the rest of every run.
- `superseded_worker_can_write`: a worker that is past its check does write.
-/

namespace Uplink.Readiness

/-- How many writes of an ending are left, at most. -/
def Ending.Stage.writesLeft : Ending.Stage → Nat
  | release => 4
  | keepFault => 3
  | publish => 2
  | settle => 1

/-- How many writes the act that a worker is in has left, at most. -/
def Worker.writesLeft : Worker → Nat
  | observe _ => 2
  | release _ => 1
  | conclude _ _ stage => stage.writesLeft
  | _ => 0

/-- A worker in no act writes nothing in its next step and gives nothing back. -/
theorem Worker.written_of_writesLeft {t : Worker} (aside : t.writesLeft = 0) (c : Cells) :
    t.written c = c ∧ t.releases = false := by
  cases t with
  | observe | release => cases aside
  | conclude j e stage => cases stage <;> cases aside
  | _ => exact ⟨rfl, rfl⟩

variable {cfg : Config} {c : Cells}

/-- A worker keeps its job until it ends. -/
theorem Worker.job?_step {t : Worker} {j : Job} (job : t.job? = some j)
    (reply : (t.request cfg).Reply) :
    (t.step cfg c reply).next = .ended ∨ (t.step cfg c reply).next.job? = some j := by
  cases t with
  | ended => exact .inl rfl
  | look j =>
    cases reply with
    | error cause => exact .inr job
    | ok interfaces =>
      simp only [step, stepLook]
      split
      · exact .inr job
      · exact .inr job
  | receive j =>
    cases reply with
    | change ch =>
      simp only [step, stepReceive]
      split
      · exact .inr job
      · exact .inr job
    | timeout => exact .inr job
    | closed => exact .inr job
  | checkTimeout | checkClosed | checkFault | checkAddress | checkClock | checkReady =>
    simp only [step]
    split
    · exact .inr job
    · exact .inl rfl
  | release | readClock =>
    simp only [step]
    split
    · exact .inr job
    · exact .inr job
  | conclude j e stage =>
    cases stage with
    | release => cases e <;> exact .inr job
    | keepFault => exact .inr job
    | publish => exact .inr job
    | settle => exact .inl rfl
  | _ => exact .inr job

/-- Only a worker that has ended has no job. -/
theorem Worker.eq_ended {t : Worker} (jobless : t.job? = none) : t = .ended := by
  cases t with
  | ended => rfl
  | _ => cases jobless

/-- The job of a worker was its job before. -/
theorem Worker.job?_of_step {t : Worker} {j : Job} {reply : (t.request cfg).Reply}
    (job : (t.step cfg c reply).next.job? = some j) : t.job? = some j := by
  cases before : t.job? with
  | none =>
    obtain rfl := eq_ended before
    cases job
  | some k =>
    rcases job?_step before reply with ended | kept
    · rw [ended] at job
      cases job
    · exact kept.symm.trans job

/-- A superseded worker that is in the middle of an act comes one write nearer to its end, and one
that is not begins no other. -/
theorem Worker.writesLeft_step_of_stale {t : Worker}
    (stale : ∀ j, t.job? = some j → c.generation ≠ j.generation) (reply : (t.request cfg).Reply) :
    (t.step cfg c reply).next.writesLeft ≤ t.writesLeft - 1 := by
  cases t with
  | look j =>
    cases reply with
    | error cause => exact Nat.le_refl _
    | ok interfaces =>
      simp only [step, stepLook]
      split <;> exact Nat.le_refl _
  | receive j =>
    cases reply with
    | change ch =>
      simp only [step, stepReceive]
      split <;> exact Nat.le_refl _
    | timeout => exact Nat.le_refl _
    | closed => exact Nat.le_refl _
  | checkTimeout j | checkClosed j | checkFault j | checkAddress j | checkClock j | checkReady j =>
    simp only [step, stale j rfl, if_false]
    exact Nat.le_refl _
  | release | readClock =>
    simp only [step]
    split <;> exact Nat.le_refl _
  | conclude j e stage =>
    cases stage with
    | release => cases e <;> exact Nat.le_of_ble_eq_true rfl
    | keepFault => exact Nat.le_refl _
    | publish => exact Nat.le_refl _
    | settle => exact Nat.le_refl _
  | _ => exact Nat.le_refl _

/-! ## The count of resets -/

/-- Whether a reset counts itself. -/
def Event.supersedes : Event cfg → Bool
  | turn _ (.reset .supersede) _ => true
  | _ => false

/-- How many resets have counted themselves during these events. -/
def supersessions (es : List (Event cfg)) : Nat := es.countP (·.supersedes)

@[simp] theorem supersessions_nil : supersessions ([] : List (Event cfg)) = 0 := rfl

@[simp] theorem supersessions_cons (e : Event cfg) (es : List (Event cfg)) :
    supersessions (e :: es) = supersessions es + if e.supersedes then 1 else 0 := by
  simp [supersessions, List.countP_cons]

/-- Nothing but a reset that counts itself changes the count. -/
theorem Thread.generation_written (c : Cells) (t : Thread) :
    (t.written c).generation =
      if t = .reset .supersede then c.generation + 1 else c.generation := by
  rcases t with t | t | t | t
  · cases t with
    | conclude s e stage => cases stage <;> rfl
    | _ => rfl
  · cases t with
    | conclude j e stage => cases stage <;> rfl
    | _ => rfl
  · cases t <;> rfl
  · rfl

/-- A job is so many resets behind. -/
def Cells.Behind (c : Cells) (j : Job) (n : Nat) : Prop :=
  c.generation = j.generation + UInt64.ofNat n

/-- A job that is some resets behind, but not too many to count, is found to be. -/
theorem Cells.Behind.stale {j : Job} {n : Nat} (behind : c.Behind j n) (late : 0 < n)
    (few : n < UInt64.size) : c.generation ≠ j.generation := by
  rw [behind]
  intro same
  -- The count wraps around; it is the worker's own again only after all its values were passed.
  have zero : UInt64.ofNat n = 0 := by simpa using same
  have wrapped : n % UInt64.size = 0 := congrArg UInt64.toNat zero
  rw [Nat.mod_eq_of_lt few] at wrapped
  exact Nat.ne_of_gt late wrapped

theorem Cells.Behind.add {j : Job} {n : Nat} (behind : c.Behind j n) {d : Cells} {m : Nat}
    (counted : d.generation = c.generation + UInt64.ofNat m) : d.Behind j (n + m) := by
  rw [Behind, counted, behind, UInt64.ofNat_add, UInt64.add_assoc]

namespace System

variable {s s' : System}

/-- An event counts one reset or none. -/
theorem generation_after? {e : Event cfg} (after : s.after? e = some s') :
    s'.cells.generation =
      s.cells.generation + UInt64.ofNat (if e.supersedes then 1 else 0) := by
  cases e with
  | enter n =>
    cases after
    exact (UInt64.add_zero _).symm
  | turn i t reply =>
    obtain ⟨present, rfl⟩ := after?_turn_eq_some.mp after
    rw [cells_advance, t.cells_step, t.generation_written]
    rcases t with t | t | t | t
    · exact (UInt64.add_zero _).symm
    · exact (UInt64.add_zero _).symm
    · cases t <;> first | rfl | exact (UInt64.add_zero _).symm
    · exact (UInt64.add_zero _).symm

/-- The count is that of the resets. -/
theorem generation_run? {es : List (Event cfg)} (run : s.run? es = some s') :
    s'.cells.generation = s.cells.generation + UInt64.ofNat (supersessions es) := by
  induction es generalizing s with
  | nil =>
    cases run
    exact (UInt64.add_zero _).symm
  | cons e es ih =>
    obtain ⟨next, after, rest⟩ := runFrom?_cons_eq_some.mp run
    rw [ih rest, generation_after? after, supersessions_cons, UInt64.ofNat_add, UInt64.add_assoc,
      UInt64.add_comm (UInt64.ofNat (supersessions es))]

end System

/-! ## Superseded for good -/

variable {s s' : System} {es : List (Event cfg)} {i n : Nat} {w : Worker} {j : Job}

/-- A worker that is some resets behind stays with its job or ends, and each turn that it takes
brings it one write nearer to the end of the act that it is in. -/
theorem superseded_worker (present : s.threads[i]? = some (.worker w))
    (job : w = .ended ∨ w.job? = some j) (behind : s.cells.Behind j n) (late : 0 < n)
    (few : n + supersessions es < UInt64.size) (run : s.run? es = some s') :
    ∃ w', s'.threads[i]? = some (.worker w') ∧ (w' = .ended ∨ w'.job? = some j) ∧
      w'.writesLeft ≤ w.writesLeft - turnsOf i es := by
  induction es generalizing s w n with
  | nil =>
    cases run
    exact ⟨w, present, job, Nat.le_refl _⟩
  | cons e es ih =>
    obtain ⟨next, after, rest⟩ := runFrom?_cons_eq_some.mp run
    have behind' := behind.add (System.generation_after? after)
    rw [supersessions_cons] at few
    cases own : e.isTurnOf i with
    | false =>
      have there := System.thread_after? present own after
      obtain ⟨w', found, job, left⟩ := ih there job behind' (by omega) (by omega) rest
      refine ⟨w', found, job, ?_⟩
      rw [turnsOf_cons, own]
      exact left
    | true =>
      cases e with
      | enter newcomer => cases own
      | turn k t reply =>
        obtain rfl : i = k := by simpa [Event.isTurnOf] using own
        obtain ⟨found, rfl⟩ := System.after?_turn_eq_some.mp after
        cases present.symm.trans found
        -- Whatever happened so far, the count is ahead of the job, so no check is passed.
        have stale (k : Job) (is : w.job? = some k) : s.cells.generation ≠ k.generation := by
          rcases job with rfl | job
          · cases is
          · cases job.symm.trans is
            exact behind.stale late (by omega)
        have kept : (w.step cfg s.cells reply).next = .ended ∨
            (w.step cfg s.cells reply).next.job? = some j := by
          rcases job with rfl | job
          · exact .inl rfl
          · exact Worker.job?_step job reply
        obtain ⟨w', there, job', left⟩ := ih (System.getElem?_advance_self present) kept behind'
          (by omega) (by omega) rest
        refine ⟨w', there, job', ?_⟩
        have step := Worker.writesLeft_step_of_stale stale reply
        rw [turnsOf_cons, own, if_pos rfl]
        omega

/-- Once a superseded worker has had as many turns as its act had writes left, it writes nothing any
more and gives nothing back; one that was in no act never does. -/
theorem superseded_worker_writes_nothing (present : s.threads[i]? = some (.worker w))
    (job : w.job? = some j) (behind : s.cells.Behind j n) (late : 0 < n)
    (few : n + supersessions es < UInt64.size) (run : s.run? es = some s')
    (acted : w.writesLeft ≤ turnsOf i es) :
    ∃ w' : Worker, s'.threads[i]? = some (.worker w') ∧ ∀ reply : (w'.request cfg).Reply,
      (w'.step cfg s'.cells reply).cells = s'.cells ∧
        (w'.step cfg s'.cells reply).unsubscribed = none := by
  obtain ⟨w', there, -, left⟩ := superseded_worker present (.inr job) behind late few run
  obtain ⟨same, keeps⟩ := w'.written_of_writesLeft (by omega) s'.cells
  refine ⟨w', there, fun reply => ⟨?_, ?_⟩⟩
  · rw [w'.cells_step, same]
  · rw [w'.unsubscribed_step, keeps]
    rfl

/-- One wired interface with an address. -/
def oneWired : List Interface := [⟨"eth0", .ethernet, .loopback, true⟩]

/-- A reset that counts itself when a worker has made its check and not yet acted. -/
def resetAfterCheck : List (Event {}) :=
  startOfWorker oneWired "eth0" ++
    [.turn 1 (.worker (.look subscribedJob)) (.ok oneWired),
      .turn 1 (.worker (.checkAddress subscribedJob)) (),
      .enter .reset,
      .turn 2 (.reset .supersede) ()]

/-- A worker that is past its check is superseded and writes all the same. -/
theorem superseded_worker_can_write :
    ∃ s s' : System, System.run? {} resetAfterCheck = some s ∧
      s.cells.generation ≠ subscribedJob.generation ∧
      s.run? [(.turn 1 (.worker (.observe subscribedJob)) () : Event {})] = some s' ∧
      s.cells.addressObserved = .pending ∧ s'.cells.addressObserved = .set :=
  ⟨_, _, rfl, by decide, rfl, rfl, rfl⟩

end Uplink.Readiness
