import Uplink.Proofs.Readiness.Outlook
import Uplink.Proofs.Readiness.Run

/-!
# The life of a coordinator between resets

A coordinator without resets goes through three phases: nobody has asked for a setup, one thread
holds the cells, or an ending has closed them. `Phase` says so of the whole system, and it is kept
by every event but a reset, whatever the outside replies and in whatever order the threads take
their turns. What users see in between two writes follows from it.

## Main definitions

- `Phase`: the three phases.
- `Cells.Coherent`: how status, signals and fault fit together.

## Main results

- `Phase.run?`: every calm run keeps the phases.
- `Phase.coherent`: in each phase the cells are coherent.
- `coherent_and_final`: from a new coordinator on the cells are coherent, and nothing of an outcome
  is changed once the status is final.
-/

namespace Uplink.Readiness

variable {cfg : Config}

/-- How far the life of a coordinator has come. -/
inductive Phase (s : System) : Prop
  /-- Nobody has asked for a setup. -/
  | vacant (fresh : s.cells = .fresh) (idle : ∀ t ∈ s.threads, t.isIdle = true)
  /-- The `i`-th thread holds the cells, and all others are idle. -/
  | held (i : Nat) (t : Thread) (present : s.threads[i]? = some t) (holds : t.Holds s.cells)
      (idle : ∀ j u, j ≠ i → s.threads[j]? = some u → u.isIdle = true)
  /-- An ending has closed the cells. -/
  | closed (e : Ending) (closed : s.cells.ClosedBy e) (idle : ∀ t ∈ s.threads, t.isIdle = true)

/-- Whoever may come in without a reset is idle. -/
theorem Newcomer.isIdle_thread {n : Newcomer} (calm : n ≠ .reset) : n.thread.isIdle = true := by
  cases n with
  | call setup => rfl
  | reset => exact (calm rfl).elim
  | watch => rfl

namespace Phase

variable {s s' : System}

/-- A new coordinator is vacant. -/
theorem fresh : Phase {} := .vacant rfl (by simp)

theorem idle_join {n : Newcomer} (idle : ∀ t ∈ s.threads, t.isIdle = true) (calm : n ≠ .reset) :
    ∀ t ∈ (s.join n).threads, t.isIdle = true :=
  forall_mem_concat idle (n.isIdle_thread calm)

/-- A newcomer changes no phase. -/
theorem join {n : Newcomer} (phase : Phase s) (calm : n ≠ .reset) : Phase (s.join n) := by
  cases phase with
  | vacant fresh idle => exact .vacant fresh (idle_join idle calm)
  | closed e closed idle => exact .closed e closed (idle_join idle calm)
  | held i t present holds idle =>
    refine .held i t (System.getElem?_join_of_some present) holds ?_
    intro j u other found
    rcases System.getElem?_join found with old | ⟨-, rfl⟩
    · exact idle j u other old
    · exact n.isIdle_thread calm

/-- After a turn that starts nobody, all threads but one are idle if they were before. -/
theorem idle_advance_of_ne {i k : Nat} {t : Thread} {reply : (t.request cfg).Reply}
    (alone : t.started? cfg reply = none)
    (next : i ≠ k → (t.step cfg s.cells reply).next.isIdle = true)
    (others : ∀ j u, j ≠ k → j ≠ i → s.threads[j]? = some u → u.isIdle = true) :
    ∀ j u, j ≠ k → (s.advance cfg i t reply).threads[j]? = some u → u.isIdle = true :=
  System.forall_ne_advance alone next others

/-- After a turn that starts nobody and leaves its thread idle, all threads are idle if the others
were before. -/
theorem idle_advance {i : Nat} {t : Thread} {reply : (t.request cfg).Reply}
    (alone : t.started? cfg reply = none)
    (next : (t.step cfg s.cells reply).next.isIdle = true)
    (others : ∀ j u, j ≠ i → s.threads[j]? = some u → u.isIdle = true) :
    ∀ u ∈ (s.advance cfg i t reply).threads, u.isIdle = true :=
  System.forall_mem_advance alone next others

/-- The turn of the thread that holds the cells. -/
theorem turn_of_holds {i : Nat} {t : Thread} (present : s.threads[i]? = some t)
    (holds : t.Holds s.cells) (idle : ∀ j u, j ≠ i → s.threads[j]? = some u → u.isIdle = true)
    (reply : (t.request cfg).Reply) : Phase (s.advance cfg i t reply) := by
  cases holds.step reply with
  | goesOn holds alone =>
    refine .held i _ (System.getElem?_advance_self present) holds ?_
    exact idle_advance_of_ne alone (fun other => (other rfl).elim) fun j u _ => idle j u
  | leaves next heir started holds =>
    -- The worker holds the cells from now on; it is the last in the list, and its caller is idle.
    refine .held _ _ (System.getElem?_advance_started started) holds ?_
    intro j u other found
    rcases System.getElem?_advance found with ⟨-, rfl⟩ | ⟨apart, old⟩ | ⟨last, -⟩
    · exact next
    · exact idle j u apart old
    · exact (other last).elim
  | closes next alone e closed => exact .closed e closed (idle_advance alone next idle)

/-- The turn of an idle thread changes no phase, unless it is a caller that is admitted. -/
theorem turn_of_idle {i : Nat} {t : Thread} (phase : Phase s) (present : s.threads[i]? = some t)
    (idle : t.isIdle = true)
    (refused : s.cells.claimed = true ∨ ∀ setup, t ≠ .caller (.claim setup))
    (reply : (t.request cfg).Reply) : Phase (s.advance cfg i t reply) := by
  obtain ⟨same, next, alone⟩ := Thread.step_of_isIdle idle refused reply
  have cells : (s.advance cfg i t reply).cells = s.cells := same
  cases phase with
  | vacant fresh all =>
    exact .vacant (cells.trans fresh) <|
      idle_advance alone next fun j u _ old => all u (List.mem_of_getElem? old)
  | closed e closed all =>
    exact .closed e (cells.symm ▸ closed) <|
      idle_advance alone next fun j u _ old => all u (List.mem_of_getElem? old)
  | held k u there holds others =>
    have other : k ≠ i := by
      rintro rfl
      cases present.symm.trans there
      exact Bool.noConfusion (idle.symm.trans holds.not_isIdle)
    exact .held k u (System.getElem?_advance_of_ne there other) (cells.symm ▸ holds) <|
      idle_advance_of_ne alone (fun _ => next) fun j v apart _ => others j v apart

/-- The turn of a caller that is admitted. -/
theorem turn_of_claim {i : Nat} {setup : Setup}
    (present : s.threads[i]? = some (.caller (.claim setup))) (untouched : s.cells.Untouched)
    (idle : ∀ t ∈ s.threads, t.isIdle = true) (reply : Unit) :
    Phase (s.advance cfg i (.caller (.claim setup)) reply) := by
  refine .held i _ (System.getElem?_advance_self present)
    (Thread.holds_claim untouched cfg setup reply) ?_
  exact idle_advance_of_ne rfl (fun other => (other rfl).elim)
    fun j u _ _ old => idle u (List.mem_of_getElem? old)

/-- No turn leaves the phases. -/
theorem turn {i : Nat} {t : Thread} (phase : Phase s) (present : s.threads[i]? = some t)
    (reply : (t.request cfg).Reply) : Phase (s.advance cfg i t reply) := by
  have mem := List.mem_of_getElem? present
  cases phase with
  | closed e closed idle =>
    exact turn_of_idle (.closed e closed idle) present (idle t mem) (.inl closed.claimed) reply
  | held k u there holds others =>
    by_cases same : i = k
    · subst same
      cases present.symm.trans there
      exact turn_of_holds there holds others reply
    · exact turn_of_idle (.held k u there holds others) present (others i t same present)
        (.inl holds.claimed) reply
  | vacant fresh idle =>
    -- Only here is a caller admitted, so only here can an idle thread come to hold the cells.
    by_cases first : ∃ setup, t = .caller (.claim setup)
    · obtain ⟨setup, rfl⟩ := first
      exact turn_of_claim present (fresh ▸ .fresh) idle reply
    · exact turn_of_idle (.vacant fresh idle) present (idle t mem)
        (.inr fun setup same => first ⟨setup, same⟩) reply

/-- No event but a reset leaves the phases. -/
theorem after? {e : Event cfg} (phase : Phase s) (calm : e.isReset = false)
    (after : s.after? e = some s') : Phase s' := by
  cases e with
  | turn i t reply =>
    obtain ⟨present, rfl⟩ := System.after?_turn_eq_some.mp after
    exact phase.turn present reply
  | enter n =>
    cases after
    refine phase.join ?_
    rintro rfl
    cases calm

/-- No calm run leaves the phases. -/
theorem run? {es : List (Event cfg)} (phase : Phase s) (calm : Calm es)
    (run : s.run? es = some s') : Phase s' :=
  runFrom?_preserves (fun e : Event cfg => e.isReset = false) Phase after? run calm phase

end Phase

/-! ## What users see -/

namespace Cells

/-- How status, signals and fault fit together, whenever somebody looks. -/
structure Coherent (c : Cells) : Prop where
  /-- Whoever passes the signal finds the network ready and the address seen. -/
  ready_set : c.ready = .set → c.status = .ready ∧ c.addressObserved = .set
  /-- Whoever is sent away finds a failure. -/
  ready_abandoned : c.ready = .abandoned → c.status.isFailure = true
  /-- A fault is kept before its status is published. -/
  faulted : c.status = .faulted → c.lastError.isSome = true
  /-- No other outcome has an error. -/
  faultless : c.status.isTerminal = true → c.status ≠ .faulted → c.lastError = none

/-- The outcome in these cells is that of those. -/
structure SameOutcome (c d : Cells) : Prop where
  status : d.status = c.status
  addressObserved : d.addressObserved = c.addressObserved
  fault : d.fault = c.fault
  applied : d.applied = c.applied

namespace SameOutcome

variable {c d e : Cells}

@[refl] theorem refl (c : Cells) : c.SameOutcome c := ⟨rfl, rfl, rfl, rfl⟩

theorem trans (first : c.SameOutcome d) (second : d.SameOutcome e) : c.SameOutcome e where
  status := second.status.trans first.status
  addressObserved := second.addressObserved.trans first.addressObserved
  fault := second.fault.trans first.fault
  applied := second.applied.trans first.applied

/-- An outcome has its last error. -/
theorem lastError (same : c.SameOutcome d) : d.lastError = c.lastError :=
  congrArg (Option.map Fault.chain) same.fault

end SameOutcome

variable {c : Cells}

/-- Cells that show how a setup ended, with a signal that tells the same or nothing yet, are
coherent. -/
theorem Coherent.of_outlook {e : Ending} (shown : c.outlook = e.outlook .settle)
    (settled : c.ready = .pending ∨ c.ready = e.settle .pending) : c.Coherent := by
  obtain ⟨status, observed, fault⟩ := Outlook.mk.inj shown
  have settle {signal : Signal} (here : c.ready = signal) (told : signal ≠ .pending) :
      e.settle .pending = signal := by
    rcases settled with pending | settled
    · exact (told (here.symm.trans pending)).elim
    · exact settled.symm.trans here
  constructor
  case ready_set =>
    intro set
    obtain rfl := Ending.settle_eq_set.mp (settle set (by simp))
    exact ⟨status, observed⟩
  case ready_abandoned =>
    intro abandoned
    rw [status]
    exact Ending.isFailure_status (Ending.settle_eq_abandoned.mp (settle abandoned (by simp)))
  case faulted =>
    intro faulted
    rw [lastError, fault, Option.isSome_map]
    exact e.isSome_fault?.mpr (status.symm.trans faulted)
  case faultless =>
    intro _ other
    rw [status, ne_eq, ← e.isSome_fault?, Bool.not_eq_true, Option.isSome_eq_false_iff,
      Option.isNone_iff_eq_none] at other
    rw [lastError, fault, other]
    rfl

/-- Cells whose status is not final and whose signal tells nothing are coherent. -/
theorem Coherent.of_pending (pending : c.ready = .pending)
    (going : c.status.isTerminal = false) : c.Coherent where
  ready_set set := by cases pending.symm.trans set
  ready_abandoned abandoned := by cases pending.symm.trans abandoned
  faulted faulted := by
    rw [faulted] at going
    cases going
  faultless final := by cases going.symm.trans final

end Cells

namespace Phase

variable {s s' : System}

/-- In every phase the cells are coherent. -/
theorem coherent (phase : Phase s) : s.cells.Coherent := by
  cases phase with
  | vacant fresh _ =>
    rw [fresh]
    exact .of_pending rfl rfl
  | closed e closed _ => exact .of_outlook closed.shown (.inr closed.settled)
  | held i t _ holds _ =>
    -- The status may be final here already: then the write that settles the signal is to come.
    cases final : s.cells.status.isTerminal with
    | false => exact .of_pending holds.pending final
    | true =>
      obtain ⟨e, shown, -⟩ := holds.step_of_isTerminal {} final
      exact .of_outlook shown (.inl holds.pending)

/-- No event but a reset changes an outcome once the status is final. -/
theorem sameOutcome_after? {e : Event cfg} (phase : Phase s)
    (final : s.cells.status.isTerminal = true) (calm : e.isReset = false)
    (after : s.after? e = some s') : s.cells.SameOutcome s'.cells := by
  cases e with
  | enter n =>
    cases after
    rfl
  | turn i t reply =>
    obtain ⟨present, rfl⟩ := System.after?_turn_eq_some.mp after
    have of_idle (idle : t.isIdle = true) (claimed : s.cells.claimed = true) :
        s.cells.SameOutcome (s.advance cfg i t reply).cells := by
      rw [System.cells_advance, (Thread.step_of_isIdle idle (.inl claimed) reply).1]
    cases phase with
    | vacant fresh _ =>
      rw [fresh] at final
      cases final
    | closed e closed idle => exact of_idle (idle t (List.mem_of_getElem? present)) closed.claimed
    | held k u there holds others =>
      by_cases same : i = k
      · subst same
        cases present.symm.trans there
        -- What is left to write is the signal, which is no part of the outcome.
        obtain ⟨e, -, step⟩ := holds.step_of_isTerminal cfg final
        rw [System.cells_advance, step reply]
        exact ⟨rfl, rfl, rfl, rfl⟩
      · exact of_idle (others i t same present) holds.claimed

/-- No calm run changes an outcome once the status is final. -/
theorem sameOutcome_run? {es : List (Event cfg)} (phase : Phase s)
    (final : s.cells.status.isTerminal = true) (calm : Calm es) (run : s.run? es = some s') :
    s.cells.SameOutcome s'.cells := by
  have step {m m' : System} {e : Event cfg} (kept : Phase m ∧ s.cells.SameOutcome m.cells)
      (calm : e.isReset = false) (after : m.after? e = some m') :
      Phase m' ∧ s.cells.SameOutcome m'.cells := by
    obtain ⟨phase, same⟩ := kept
    have still : m.cells.status.isTerminal = true := by rw [same.status, final]
    exact ⟨phase.after? calm after, same.trans (phase.sameOutcome_after? still calm after)⟩
  exact (runFrom?_preserves (fun e : Event cfg => e.isReset = false)
    (fun m => Phase m ∧ s.cells.SameOutcome m.cells) step run calm ⟨phase, .refl _⟩).2

end Phase

/-- Without resets, the cells of a coordinator are coherent after every run from its beginning, and
once the status is final, no event changes the outcome any more. -/
theorem coherent_and_final {es fs : List (Event cfg)} {s s' : System} (calm : Calm (es ++ fs))
    (reached : System.run? {} es = some s) (later : s.run? fs = some s') :
    s.cells.Coherent ∧
      (s.cells.status.isTerminal = true →
        s'.cells.status = s.cells.status ∧ s'.cells.lastError = s.cells.lastError ∧
          s'.cells.applied = s.cells.applied ∧
          s'.cells.addressObserved = s.cells.addressObserved) := by
  have phase : Phase s := Phase.fresh.run? calm.left reached
  refine ⟨phase.coherent, fun final => ?_⟩
  have same := phase.sameOutcome_run? final calm.right later
  exact ⟨same.status, same.lastError, same.applied, same.addressObserved⟩

/-- A setup by polling, with DHCP and without a clock. -/
def polled : Setup := ⟨.polling, none, false⟩

/-- A setup by polling that finds an address at its first look, up to the write of its status. -/
def polledUpToStatus : List (Event {}) :=
  [.enter (.call polled),
    .turn 0 (.caller (.claim polled)) (),
    .turn 0 (.caller (.start polled .polling)) (),
    .turn 0 (.caller (.find polled .polling)) (.ok [⟨"eth0", .ethernet, .any, false⟩]),
    .turn 0 (.caller (.assign polled .polling "eth0")) (.ok ()),
    .turn 0 (.caller (.setServers polled .polling "eth0")) (.ok ()),
    .turn 0 (.caller (.keepConfiguration polled .polling)) (),
    .turn 0 (.caller (.settle polled .polling)) (),
    .turn 0 (.caller (.checkToken polled)) false,
    .turn 0 (.caller (.poll polled)) (.ok [⟨"eth0", .ethernet, .loopback, true⟩]),
    .turn 0 (.caller (.observe polled)) (),
    .turn 0 (.caller (.conclude polled .ready .publish)) ()]

/-- Between the write of the status and that of the signal the network is ready, though the signal
does not tell yet; the last write and a second caller change nothing of that. -/
theorem coherent_and_final_polled : ∃ s s' : System,
    System.run? {} polledUpToStatus = some s ∧ s.cells.status = .ready ∧ s.cells.ready = .pending ∧
      s.cells.Coherent ∧ s'.cells.ready = .set ∧ s'.cells.status = .ready ∧
      s'.cells.lastError = none ∧ s'.cells.applied = none ∧ s'.cells.addressObserved = .set := by
  obtain ⟨coherent, final⟩ := @coherent_and_final {} polledUpToStatus
    [.enter (.call polled), .turn 1 (.caller (.claim polled)) (),
      .turn 0 (.caller (.conclude polled .ready .settle)) ()] _ _ (by decide) rfl rfl
  obtain ⟨status, lastError, applied, observed⟩ := final rfl
  exact ⟨_, _, rfl, rfl, rfl, coherent, rfl, status, lastError, applied, observed⟩

end Uplink.Readiness
