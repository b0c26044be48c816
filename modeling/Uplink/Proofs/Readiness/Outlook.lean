import Uplink.Proofs.Readiness.Write

/-!
# Who writes the cells

The cells of a coordinator are written by several kinds of thread, from many places, in small steps.
What keeps them consistent is that at any time at most one thread has anything to write: the caller
that was admitted, then the worker it starts. So what the cells say about a setup can be read off
the place of that one thread.

## Main definitions

- `Outlook`: what the cells say about a setup; `Thread.outlook?` is what they say while a thread
  stands at its place, for those threads that write.
- `Thread.Holds`: the cells say what the place of a thread promises, and nothing is settled yet.
- `Cells.Untouched`, `Cells.ClosedBy`: no setup was admitted, and an ending has made all its writes.

## Main results

- `Thread.Holds.step`: a thread that holds the cells goes on holding them, leaves them to the worker
  that it starts, or closes them.
- `Thread.step_of_isIdle`: everyone else writes nothing.
-/

namespace Uplink.Readiness

/-- What the cells say about the progress of a setup. -/
structure Outlook where
  status : Status
  addressObserved : Signal
  fault : Option Fault
  deriving DecidableEq, Repr

/-- What these cells say. -/
def Cells.outlook (c : Cells) : Outlook := ⟨c.status, c.addressObserved, c.fault⟩

namespace Outlook

/-- Nothing has been written yet. -/
def untouched : Outlook := ⟨.idle, .pending, none⟩

/-- The setup is under way, and the address was seen or not. -/
def waiting (observed : Signal) : Outlook := ⟨.started, observed, none⟩

end Outlook

namespace Ending

/-- Whether the address was seen before a setup ended this way. -/
def observed : Ending → Signal
  | ready | expired .clock => .set
  | _ => .pending

/-- The fault that an ending keeps. -/
def fault? : Ending → Option Fault
  | failed f => some f
  | _ => none

/-- What the cells say before a write of an ending. -/
def outlook (e : Ending) : Stage → Outlook
  | .release | .keepFault => .waiting e.observed
  | .publish => ⟨.started, e.observed, e.fault?⟩
  | .settle => ⟨e.status, e.observed, e.fault?⟩

/-- An ending begins where the wait stops. -/
@[simp] theorem outlook_firstStage (e : Ending) : e.outlook e.firstStage = .waiting e.observed := by
  cases e <;> rfl

/-- The status that an ending publishes is final. -/
theorem isTerminal_status (e : Ending) : e.status.isTerminal = true := by
  rcases e with _ | _ | (_ | _) | _ <;> rfl

/-- Every ending but one is a failure. -/
theorem isFailure_status {e : Ending} (unready : e ≠ ready) : e.status.isFailure = true := by
  rcases e with _ | _ | (_ | _) | _
  · exact (unready rfl).elim
  all_goals rfl

/-- Exactly the failed endings keep a fault. -/
theorem isSome_fault? (e : Ending) : e.fault?.isSome = true ↔ e.status = .faulted := by
  rcases e with _ | _ | (_ | _) | _ <;> simp [fault?, status]

/-- Exactly one ending sets the signal. -/
theorem settle_eq_set {e : Ending} : e.settle .pending = .set ↔ e = ready := by
  cases e <;> simp [settle, Signal.raise, Signal.abandon]

/-- All others abandon it. -/
theorem settle_eq_abandoned {e : Ending} : e.settle .pending = .abandoned ↔ e ≠ ready := by
  cases e <;> simp [settle, Signal.raise, Signal.abandon]

end Ending

/-- Nobody was admitted, and nothing was written. -/
structure Cells.Untouched (c : Cells) : Prop where
  free : c.claimed = false
  pending : c.ready = .pending
  shown : c.outlook = .untouched

/-- New cells are untouched. -/
theorem Cells.Untouched.fresh : Cells.fresh.Untouched := ⟨rfl, rfl, rfl⟩

/-- All writes of an ending have been made. -/
structure Cells.ClosedBy (c : Cells) (e : Ending) : Prop where
  claimed : c.claimed = true
  shown : c.outlook = e.outlook .settle
  settled : c.ready = e.settle .pending

/-! ## What a place promises -/

/-- The count of resets that an approach was begun with. -/
def Approach.generation? : Approach → Option UInt64
  | events generation => some generation
  | polling => none

/-- The count of resets that a route was begun with. -/
def Route.generation? : Route → Option UInt64
  | events generation _ => some generation
  | polling => none

/-- What the cells say while a caller stands at a place, if it is the one that writes them. -/
def Caller.outlook? : Caller → Option Outlook
  | claim _ | returned _ => none
  | readGeneration _ | start .. => some .untouched
  | checkTokenForClock _ | readClock _ | clockPause _ => some (.waiting .set)
  | conclude _ e stage => some (e.outlook stage)
  | _ => some (.waiting .pending)

/-- The count of resets that a caller carries. -/
def Caller.generation? : Caller → Option UInt64
  | start _ a | find _ a => a.generation?
  | subscribe _ generation _ | keepSubscription _ generation _ _ | startWorker _ generation _ =>
    some generation
  | assign _ r _ | setServers _ r _ | keepConfiguration _ r | settle _ r => r.generation?
  | _ => none

/-- What a worker was started with, while it runs. -/
def Worker.job? : Worker → Option Job
  | look j | receive j | checkTimeout j | checkClosed j | checkFault j _ | checkAddress j
  | observe j | release j | checkClock j | readClock j | clockPause j | checkReady j
  | conclude j _ _ => some j
  | ended => none

/-- What the cells say while a worker stands at a place. -/
def Worker.outlook? : Worker → Option Outlook
  | ended => none
  | release _ | checkClock _ | readClock _ | clockPause _ | checkReady _ => some (.waiting .set)
  | conclude _ e stage => some (e.outlook stage)
  | _ => some (.waiting .pending)

namespace Thread

/-- What the cells say while a thread stands at a place, if it is the one that writes them. -/
def outlook? : Thread → Option Outlook
  | caller t => t.outlook?
  | worker t => t.outlook?
  | _ => none

/-- The count of resets that a thread carries. -/
def generation? : Thread → Option UInt64
  | caller t => t.generation?
  | worker t => t.job?.map (·.generation)
  | _ => none

/-- Whether a thread writes nothing, now that a setup was admitted. -/
def isIdle : Thread → Bool
  | caller t => t.outlook?.isNone
  | worker t => t.outlook?.isNone
  | reset t => t == .done
  | watcher _ => true

/-- The cells are as a thread's place promises, and the setup is not over. -/
structure Holds (t : Thread) (c : Cells) : Prop where
  claimed : c.claimed = true
  pending : c.ready = .pending
  shown : t.outlook? = some c.outlook
  current : ∀ generation ∈ t.generation?, generation = c.generation

end Thread

/-- A thread that carries no count is never behind. -/
theorem Thread.current_of_none {t : Thread} {c : Cells} (uncounted : t.generation? = none) :
    ∀ generation ∈ t.generation?, generation = c.generation := by
  simp [uncounted]

/-- What becomes of the cells when the thread that holds them has taken a step. -/
inductive Succession (next : Thread) (started : Option Worker) (c : Cells) : Prop
  | goesOn (holds : next.Holds c) (alone : started = none)
  | leaves (idle : next.isIdle = true) (heir : Worker) (present : started = some heir)
      (holds : (Thread.worker heir).Holds c)
  | closes (idle : next.isIdle = true) (alone : started = none) (e : Ending) (closed : c.ClosedBy e)

/-! ## One step -/

variable {cfg : Config} {c d : Cells}

/-- An idle thread writes nothing, stays idle and starts nobody, unless it is a caller and no setup
was admitted. -/
theorem Thread.step_of_isIdle {t : Thread} (idle : t.isIdle = true)
    (refused : c.claimed = true ∨ ∀ s, t ≠ .caller (.claim s)) (reply : (t.request cfg).Reply) :
    (t.step cfg c reply).cells = c ∧ (t.step cfg c reply).next.isIdle = true ∧
      t.started? cfg reply = none := by
  rcases t with t | t | t | t
  · cases t with
    | claim s =>
      rcases refused with claimed | apart
      · simp [step, Caller.step, Caller.stepClaim, claimed, started?, isIdle, Caller.outlook?]
      · exact (apart s rfl).elim
    | returned v => exact ⟨rfl, rfl, rfl⟩
    | _ => cases idle
  · cases t with
    | ended => exact ⟨rfl, rfl, rfl⟩
    | _ => cases idle
  · cases t with
    | done => exact ⟨rfl, rfl, rfl⟩
    | _ => cases idle
  · exact ⟨t.cells_step c reply, rfl, rfl⟩

/-- The first caller is admitted and holds the cells from then on. -/
theorem Thread.holds_claim (untouched : c.Untouched) (cfg : Config) (s : Setup) (reply : Unit) :
    (step cfg c (.caller (.claim s)) reply).next.Holds
      (step cfg c (.caller (.claim s)) reply).cells := by
  have shown := congrArg some untouched.shown.symm
  simp only [step, Caller.step, Caller.stepClaim, untouched.free]
  cases mode : s.mode with
  | events => exact ⟨rfl, untouched.pending, shown, Thread.current_of_none rfl⟩
  | polling => exact ⟨rfl, untouched.pending, shown, Thread.current_of_none rfl⟩

/-- A write of an ending leads to the next one and to what the cells say then; the last one
settles the signal and nothing else. -/
theorem Ending.step_of_outlook {Place : Type} (cfg : Config) (e : Ending) (stage : Stage)
    (again : Stage → Place) (after : Place) (shown : c.outlook = e.outlook stage) :
    (∃ following, (e.step cfg stage again after c).next = again following ∧
      (e.step cfg stage again after c).cells.outlook = e.outlook following ∧
      (e.step cfg stage again after c).cells.ready = c.ready ∧
      (e.step cfg stage again after c).cells.claimed = c.claimed ∧
      (e.step cfg stage again after c).cells.generation = c.generation) ∨
    (stage = .settle ∧ (e.step cfg stage again after c).next = after ∧
      (e.step cfg stage again after c).cells = { c with ready := e.settle c.ready }) := by
  cases stage with
  | release =>
    left
    rcases e with _ | _ | _ | _
    · exact ⟨.publish, rfl, shown, rfl, rfl, rfl⟩
    · exact ⟨.publish, rfl, shown, rfl, rfl, rfl⟩
    · exact ⟨.publish, rfl, shown, rfl, rfl, rfl⟩
    · exact ⟨.keepFault, rfl, shown, rfl, rfl, rfl⟩
  | keepFault =>
    refine .inl ⟨.publish, rfl, ?_, rfl, rfl, rfl⟩
    obtain ⟨status, observed, fault⟩ := Outlook.mk.inj shown
    rcases e with _ | _ | _ | _ <;> simp [step, Cells.outlook, outlook, status, observed, fault,
      fault?]
  | publish =>
    refine .inl ⟨.settle, rfl, ?_, rfl, rfl, rfl⟩
    obtain ⟨-, observed, fault⟩ := Outlook.mk.inj shown
    simp [step, Cells.outlook, outlook, observed, fault]
  | settle => exact .inr ⟨rfl, rfl, rfl⟩

namespace Thread.Holds

variable {t t' : Thread}

/-- Whoever holds the cells is not idle. -/
theorem not_isIdle (holds : t.Holds c) : t.isIdle = false := by
  have shown := holds.shown
  rcases t with t | t | t | t
  · simp only [outlook?] at shown
    simp [isIdle, shown]
  · simp only [outlook?] at shown
    simp [isIdle, shown]
  · cases shown
  · cases shown

/-- A worker that holds the cells carries their count of resets. -/
theorem generation_eq {w : Worker} {j : Job} (holds : (Thread.worker w).Holds c)
    (job : w.job? = some j) : c.generation = j.generation :=
  (holds.current j.generation (by simp [generation?, job])).symm

/-- A thread that moves on with a write of its own goes on holding the cells. -/
theorem write (holds : t.Holds c) (claimed : d.claimed = c.claimed) (pending : d.ready = c.ready)
    (shown : t'.outlook? = some d.outlook)
    (current : ∀ generation ∈ t'.generation?, generation = d.generation) : t'.Holds d where
  claimed := claimed.trans holds.claimed
  pending := pending.trans holds.pending
  shown := shown
  current := current

/-- A thread that moves on to a place with the same promise goes on holding the cells. -/
theorem move (holds : t.Holds c) (same : t'.outlook? = t.outlook?)
    (kept : t'.generation? = t.generation?) : t'.Holds c :=
  holds.write rfl rfl (same.trans holds.shown) (kept ▸ holds.current)

/-- A thread that stops waiting begins with its ending. -/
theorem stop (holds : t.Holds c) {e : Ending} (waits : t.outlook? = some (.waiting e.observed))
    (ends : t'.outlook? = some (e.outlook e.firstStage))
    (current : ∀ generation ∈ t'.generation?, generation = c.generation) : t'.Holds c :=
  holds.write rfl rfl (by rw [ends, e.outlook_firstStage, ← waits, holds.shown]) current

end Thread.Holds

/-- A caller that begins with an ending goes on holding the cells. -/
theorem Caller.goesOn_ending {t : Caller} (holds : (Thread.caller t).Holds c) (s : Setup)
    {e : Ending} (waits : t.outlook? = some (.waiting e.observed)) :
    Succession (.caller (ending s e c).next) none (ending s e c).cells :=
  .goesOn (holds.stop waits rfl (Thread.current_of_none rfl)) rfl

/-- One step of the caller that holds the cells. -/
theorem Caller.step_of_holds {t : Caller} (holds : (Thread.caller t).Holds c)
    (reply : (t.request cfg).Reply) :
    Succession (.caller (t.step cfg c reply).next) (Thread.started? cfg (.caller t) reply)
      (t.step cfg c reply).cells := by
  cases t with
  | claim s => cases holds.shown
  | returned v => cases holds.shown
  | readGeneration s =>
    refine .goesOn (holds.write rfl rfl holds.shown ?_) rfl
    rintro generation ⟨⟩
    rfl
  | start s a =>
    have shown := Outlook.mk.inj (Option.some.inj holds.shown)
    refine .goesOn (holds.write rfl rfl ?_ holds.current) rfl
    simp [step, Thread.outlook?, outlook?, Cells.outlook, Outlook.waiting, ← shown]
  | find s a =>
    cases reply with
    | error cause => exact goesOn_ending holds s rfl
    | ok interfaces =>
      simp only [step, stepFind]
      split
      · exact goesOn_ending holds s rfl
      · cases a with
        | events generation => exact .goesOn (holds.move rfl rfl) rfl
        | polling => exact .goesOn (holds.move rfl rfl) rfl
  | subscribe s generation interface =>
    cases reply with
    | error cause => exact goesOn_ending holds s rfl
    | ok id => exact .goesOn (holds.move rfl rfl) rfl
  | keepSubscription s generation interface id =>
    exact .goesOn (holds.write rfl rfl holds.shown holds.current) rfl
  | assign s r interface =>
    cases reply with
    | error cause => exact goesOn_ending holds s rfl
    | ok _ => exact .goesOn (holds.move rfl rfl) rfl
  | setServers s r interface =>
    cases reply with
    | error cause => exact goesOn_ending holds s rfl
    | ok _ => exact .goesOn (holds.move rfl rfl) rfl
  | keepConfiguration s r => exact .goesOn (holds.write rfl rfl holds.shown holds.current) rfl
  | settle s r =>
    cases r with
    | events generation channel => exact .goesOn (holds.move rfl rfl) rfl
    | polling => exact .goesOn (holds.move rfl rfl) rfl
  | startWorker s generation channel =>
    cases reply with
    | error cause => exact goesOn_ending holds s rfl
    -- The only step that hands the cells over: the worker begins where its caller ends.
    | ok _ => exact .leaves rfl _ rfl (holds.move rfl rfl)
  | checkToken s =>
    cases reply with
    | false => exact .goesOn (holds.move rfl rfl) rfl
    | true => exact goesOn_ending holds s rfl
  | poll s =>
    cases reply with
    | error cause => exact goesOn_ending holds s rfl
    | ok interfaces =>
      simp only [step, stepPoll]
      split
      · exact .goesOn (holds.move rfl rfl) rfl
      · exact .goesOn (holds.move rfl rfl) rfl
  | pollPause s => exact .goesOn (holds.move rfl rfl) rfl
  | observe s =>
    have shown := Outlook.mk.inj (Option.some.inj holds.shown)
    simp only [step, stepObserve]
    split
    · refine .goesOn (holds.write rfl rfl ?_ (Thread.current_of_none rfl)) rfl
      simp [Thread.outlook?, outlook?, Cells.outlook, Outlook.waiting, ← shown, Signal.raise]
    · refine .goesOn (holds.write rfl rfl ?_ (Thread.current_of_none rfl)) rfl
      simp [Thread.outlook?, outlook?, Cells.outlook, Outlook.waiting, ending, Ending.observed,
        ← shown, Signal.raise]
  | checkTokenForClock s =>
    cases reply with
    | false => exact .goesOn (holds.move rfl rfl) rfl
    | true => exact goesOn_ending holds s rfl
  | readClock s =>
    simp only [step, stepClock]
    split
    · exact goesOn_ending holds s rfl
    · exact .goesOn (holds.move rfl rfl) rfl
  | clockPause s => exact .goesOn (holds.move rfl rfl) rfl
  | conclude s e stage =>
    have shown := (Option.some.inj holds.shown).symm
    rcases e.step_of_outlook cfg stage (conclude s e)
      (returned (e.verdict cfg.target s.mode)) shown with
      ⟨following, next, outlook, ready, claimed, -⟩ | ⟨rfl, next, cells⟩
    · simp only [step, next]
      exact .goesOn (holds.write claimed ready (congrArg some outlook.symm)
        (Thread.current_of_none rfl)) rfl
    · simp only [step, next, cells]
      exact .closes rfl rfl e ⟨holds.claimed, shown, congrArg e.settle holds.pending⟩

/-- A worker that begins with an ending goes on holding the cells. -/
theorem Worker.goesOn_ending {t : Worker} {j : Job} (holds : (Thread.worker t).Holds c)
    {e : Ending} (waits : t.outlook? = some (.waiting e.observed)) (job : t.job? = some j) :
    Succession (.worker (ending j e c).next) none (ending j e c).cells :=
  have same : (Thread.worker (ending j e c).next).generation? = (Thread.worker t).generation? := by
    simp only [Thread.generation?, job]
    rfl
  .goesOn (holds.stop waits rfl (same ▸ holds.current)) rfl

/-- One step of the worker that holds the cells: the count of resets is the one that it carries, so
that each of its checks is passed. -/
theorem Worker.step_of_holds {t : Worker} (holds : (Thread.worker t).Holds c)
    (reply : (t.request cfg).Reply) :
    Succession (.worker (t.step cfg c reply).next) none (t.step cfg c reply).cells := by
  have current (j : Job) (job : t.job? = some j) : c.generation = j.generation :=
    holds.generation_eq job
  cases t with
  | ended => cases holds.shown
  | look j =>
    cases reply with
    | error cause => exact .goesOn (holds.move rfl rfl) rfl
    | ok interfaces =>
      simp only [step, stepLook]
      split
      · exact .goesOn (holds.move rfl rfl) rfl
      · exact .goesOn (holds.move rfl rfl) rfl
  | receive j =>
    cases reply with
    | change ch =>
      simp only [step, stepReceive]
      split
      · exact .goesOn (holds.move rfl rfl) rfl
      · exact .goesOn (holds.move rfl rfl) rfl
    | timeout => exact .goesOn (holds.move rfl rfl) rfl
    | closed => exact .goesOn (holds.move rfl rfl) rfl
  | checkTimeout j =>
    simp only [step, current j rfl, if_true]
    exact .goesOn (holds.move rfl rfl) rfl
  | checkClosed j =>
    simp only [step, current j rfl, if_true]
    exact .goesOn (holds.move rfl rfl) rfl
  | checkFault j f =>
    simp only [step, current j rfl, if_true]
    exact goesOn_ending holds rfl rfl
  | checkAddress j =>
    simp only [step, current j rfl, if_true]
    exact .goesOn (holds.move rfl rfl) rfl
  | observe j =>
    have shown := Outlook.mk.inj (Option.some.inj holds.shown)
    refine .goesOn (holds.write rfl rfl ?_ holds.current) rfl
    simp [step, Thread.outlook?, outlook?, Cells.outlook, Outlook.waiting, ← shown, Signal.raise]
  | release j =>
    simp only [step]
    split
    · exact .goesOn (holds.write rfl rfl holds.shown holds.current) rfl
    · exact .goesOn (holds.write rfl rfl holds.shown holds.current) rfl
  | checkClock j =>
    simp only [step, current j rfl, if_true]
    exact .goesOn (holds.move rfl rfl) rfl
  | readClock j =>
    simp only [step]
    split
    · exact .goesOn (holds.move rfl rfl) rfl
    · exact .goesOn (holds.move rfl rfl) rfl
  | clockPause j => exact .goesOn (holds.move rfl rfl) rfl
  | checkReady j =>
    simp only [step, current j rfl, if_true]
    exact goesOn_ending holds rfl rfl
  | conclude j e stage =>
    have shown := (Option.some.inj holds.shown).symm
    rcases e.step_of_outlook cfg stage (conclude j e) ended shown with
      ⟨following, next, outlook, ready, claimed, generation⟩ | ⟨rfl, next, cells⟩
    · simp only [step, next]
      exact .goesOn (holds.write claimed ready (congrArg some outlook.symm)
        (generation ▸ holds.current)) rfl
    · simp only [step, next, cells]
      exact .closes rfl rfl e ⟨holds.claimed, shown, congrArg e.settle holds.pending⟩

/-- One step of the thread that holds the cells. -/
theorem Thread.Holds.step {t : Thread} (holds : t.Holds c) (reply : (t.request cfg).Reply) :
    Succession (t.step cfg c reply).next (t.started? cfg reply) (t.step cfg c reply).cells := by
  cases t with
  | caller t => exact t.step_of_holds holds reply
  | worker t => exact t.step_of_holds holds reply
  | reset t => cases holds.shown
  | watcher t => cases holds.shown

/-! ## The last write -/

/-- The status is final before one write only: the one that settles the signal. -/
theorem Ending.stage_of_isTerminal {e : Ending} {stage : Stage}
    (final : (e.outlook stage).status.isTerminal = true) : stage = .settle := by
  cases stage with
  | settle => rfl
  | _ => cases final

/-- Once the status is final, the thread that holds the cells only has the signal to settle. -/
theorem Thread.Holds.step_of_isTerminal {t : Thread} (holds : t.Holds c) (cfg : Config)
    (final : c.status.isTerminal = true) :
    ∃ e : Ending, c.outlook = e.outlook .settle ∧ ∀ reply : (t.request cfg).Reply,
      (t.step cfg c reply).cells = { c with ready := e.settle c.ready } := by
  have shown := holds.shown
  have final : c.outlook.status.isTerminal = true := final
  rcases t with t | t | t | t
  · cases t with
    | conclude s e stage =>
      have same : e.outlook stage = c.outlook := Option.some.inj shown
      obtain rfl := Ending.stage_of_isTerminal (same ▸ final)
      exact ⟨e, same.symm, fun _ => rfl⟩
    | claim s => cases shown
    | returned v => cases shown
    | _ =>
      rw [← Option.some.inj shown] at final
      cases final
  · cases t with
    | conclude j e stage =>
      have same : e.outlook stage = c.outlook := Option.some.inj shown
      obtain rfl := Ending.stage_of_isTerminal (same ▸ final)
      exact ⟨e, same.symm, fun _ => rfl⟩
    | ended => cases shown
    | _ =>
      rw [← Option.some.inj shown] at final
      cases final
  · cases shown
  · cases shown

end Uplink.Readiness
