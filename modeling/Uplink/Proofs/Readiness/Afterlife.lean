import Uplink.Proofs.Readiness.Eras

/-!
# What is left of a worker

A worker that a reset has superseded is not told so. It finishes the call or the pause that it is in
and goes on with whatever comes of it, an address, an error, the end of its subscription or the year,
until it compares the count of resets with its own. From every place this takes a few turns of its
own only, unless it is told of changes that it does not wait for; and on no way to that comparison
does it look at the interfaces or read the clock once more.

## Main definitions

- `Worker.turnsLeft`: how many turns a superseded worker has left at most.
- `asksOf`, `changesTold`: how often a thread asks for something, and is told of a change.
- `Powerless`: what a superseded worker has done, and can do.

## Main results

- `System.afterlife`: a superseded worker stays so, comes nearer to its end with each turn, and asks
  for nothing that it had not asked for before.
- `System.powerless`: so it is powerless for the rest of every run.
-/

namespace Uplink.Readiness

variable {cfg : Config} {c : Cells} {g : UInt64}

/-- How many turns a superseded worker has left at most, if it is told of no more changes. -/
def Worker.turnsLeft : Worker → Nat
  | ended => 0
  | look _ | readClock _ => 3
  | receive _ | clockPause _ => 2
  | _ => 1

@[simp] theorem Worker.turnsLeft_eq_zero {w : Worker} : w.turnsLeft = 0 ↔ w = .ended := by
  cases w <;> simp [turnsLeft]

theorem Worker.turnsLeft_le (w : Worker) : w.turnsLeft ≤ 3 := by
  cases w <;> simp [turnsLeft]

namespace Event

/-- Whether the `i`-th thread asks for this. -/
def asks (i : Nat) (q : Request) : Event cfg → Bool
  | turn j t _ => i == j && t.request cfg == q
  | enter _ => false

/-- Whether the `i`-th thread, a worker, is told of a change. -/
def tells (i : Nat) : Event cfg → Bool
  | turn j (.worker (.receive _)) (.change _) => i == j
  | _ => false

/-- Nobody asks for anything out of turn. -/
theorem asks_of_other {i : Nat} {e : Event cfg} (other : e.isTurnOf i = false) (q : Request) :
    e.asks i q = false := by
  cases e with
  | enter n => rfl
  | turn j t reply => exact Bool.and_eq_false_imp.mpr fun own => by cases other.symm.trans own

/-- Nobody is told of anything out of turn. -/
theorem tells_of_other {i : Nat} {e : Event cfg} (other : e.isTurnOf i = false) :
    e.tells i = false := by
  unfold tells
  split
  · exact other
  · rfl

end Event

/-- How often the `i`-th thread asks for this during these events. -/
def asksOf (i : Nat) (q : Request) (es : List (Event cfg)) : Nat := es.countP (·.asks i q)

/-- How many changes the `i`-th thread is told of during these events. -/
def changesTold (i : Nat) (es : List (Event cfg)) : Nat := es.countP (·.tells i)

@[simp] theorem asksOf_nil (i : Nat) (q : Request) : asksOf i q ([] : List (Event cfg)) = 0 := rfl

@[simp] theorem changesTold_nil (i : Nat) : changesTold i ([] : List (Event cfg)) = 0 := rfl

@[simp] theorem asksOf_cons (i : Nat) (q : Request) (e : Event cfg) (es : List (Event cfg)) :
    asksOf i q (e :: es) = asksOf i q es + if e.asks i q then 1 else 0 := by
  simp [asksOf, List.countP_cons]

@[simp] theorem changesTold_cons (i : Nat) (e : Event cfg) (es : List (Event cfg)) :
    changesTold i (e :: es) = changesTold i es + if e.tells i then 1 else 0 := by
  simp [changesTold, List.countP_cons]

/-! ## One turn of a superseded worker -/

/-- Whether a request asks for the interfaces or for the year. -/
def Request.isQuestion : Request → Bool
  | listInterfaces | readClock => true
  | _ => false

namespace Worker

variable {w : Worker}

/-- A superseded worker does not come to a place where it looks at the interfaces or reads the
clock. -/
theorem request_step_of_stale (stale : ∀ j ∈ w.job?, j.generation ≠ c.generation)
    (reply : (w.request cfg).Reply) :
    ((w.step cfg c reply).next.request cfg).isQuestion = false := by
  cases w with
  | look j =>
    cases reply with
    | error cause => rfl
    | ok interfaces =>
      simp only [step, stepLook]
      split <;> rfl
  | receive j =>
    cases reply with
    | change ch =>
      simp only [step, stepReceive]
      split <;> rfl
    | timeout => rfl
    | closed => rfl
  | checkTimeout j | checkClosed j | checkFault j | checkAddress j | checkClock j | checkReady j =>
    simp only [step, if_neg (stale j rfl).symm]
    rfl
  | release | readClock =>
    simp only [step]
    split <;> rfl
  | conclude j e stage =>
    cases stage with
    | release => cases e <;> rfl
    | _ => rfl
  | _ => rfl

/-- Each turn of a superseded worker in no act takes it nearer to its end, unless it is told of a
change. -/
theorem turnsLeft_step_of_stale (still : w.writesLeft = 0) (running : w ≠ .ended)
    (stale : ∀ j ∈ w.job?, j.generation ≠ c.generation) (reply : (w.request cfg).Reply) (i : Nat) :
    (w.step cfg c reply).next.turnsLeft + 1 ≤
      w.turnsLeft + if (Event.turn i (.worker w) reply).tells i then 1 else 0 := by
  cases w with
  | ended => exact (running rfl).elim
  | observe | release => cases still
  | conclude j e stage => cases stage <;> cases still
  | look j =>
    cases reply with
    | error cause => exact Nat.le_of_ble_eq_true rfl
    | ok interfaces =>
      simp only [step, stepLook]
      split <;> exact Nat.le_of_ble_eq_true rfl
  | receive j =>
    cases reply with
    | change ch =>
      simp only [step, stepReceive, Event.tells, beq_self_eq_true, if_true]
      split <;> exact Nat.le_of_ble_eq_true rfl
    | timeout => exact Nat.le_refl _
    | closed => exact Nat.le_refl _
  | checkTimeout j | checkClosed j | checkFault j | checkAddress j | checkClock j | checkReady j =>
    simp only [step, if_neg (stale j rfl).symm]
    exact Nat.le_refl _
  | readClock =>
    simp only [step]
    split <;> exact Nat.le_of_ble_eq_true rfl
  | clockPause => exact Nat.le_refl _

end Worker

/-! ## The rest of a run -/

/-- Whoever is aside stays so, if the next reset does not come round to its count. -/
theorem Thread.IsAside.succ {t : Thread} (aside : t.IsAside g) (timely : t.isLapped g = false) :
    t.IsAside (g + 1) := by
  cases t with
  | caller t => exact aside
  | worker w =>
    refine ⟨aside.1, fun j job same => ?_⟩
    simp [isLapped, Option.mem_def.mp job, same] at timely
  | reset t => trivial
  | watcher t => trivial

namespace System

variable {s s' : System} {es : List (Event cfg)} {e : Event cfg} {i : Nat} {w : Worker}

/-- Whatever happens, a worker that is aside stays so until its next turn. -/
theorem isAside_after? (aside : (Thread.worker w).IsAside s.cells.generation)
    (present : s.threads[i]? = some (.worker w)) (timely : s.isTimely e = true)
    (after : s.after? e = some s') : (Thread.worker w).IsAside s'.cells.generation := by
  cases e with
  | enter n =>
    cases after
    exact aside
  | turn k t reply =>
    obtain ⟨-, rfl⟩ := after?_turn_eq_some.mp after
    rw [cells_advance, t.cells_step, t.generation_written]
    split
    · rename_i counts
      subst counts
      refine aside.succ ?_
      simpa using List.all_eq_true.mp timely _ (List.mem_of_getElem? present)
    · exact aside

/-- A superseded worker stays aside for the rest of every run. It has ended, or each turn of its own
has brought it nearer to its end, changes that it was told of apart; and it asks neither for the
interfaces nor for the year, unless that is what it was asking for. -/
theorem afterlife (present : s.threads[i]? = some (.worker w))
    (aside : (Thread.worker w).IsAside s.cells.generation) (timely : s.Timely es)
    (run : s.run? es = some s') :
    ∃ w', s'.threads[i]? = some (.worker w') ∧ (Thread.worker w').IsAside s'.cells.generation ∧
      (w = .ended → w' = .ended) ∧
      (w' = .ended ∨ w'.turnsLeft + turnsOf i es ≤ w.turnsLeft + changesTold i es) ∧
      ∀ q : Request, q.isQuestion = true →
        asksOf i q es ≤ if w.request cfg = q then 1 else 0 := by
  induction es generalizing s w with
  | nil =>
    cases run
    exact ⟨w, present, aside, id, .inr (Nat.le_refl _), fun q _ => Nat.zero_le _⟩
  | cons e es ih =>
    obtain ⟨next, after, rest⟩ := runFrom?_cons_eq_some.mp run
    obtain ⟨now, later⟩ := (allAlong_cons after).mp timely
    cases own : e.isTurnOf i with
    | false =>
      obtain ⟨w', there, aside', stays, left, asked⟩ := ih (thread_after? present own after)
        (isAside_after? aside present now after) later rest
      refine ⟨w', there, aside', stays, ?_, fun q known => ?_⟩
      · simpa only [turnsOf_cons, own, changesTold_cons, Event.tells_of_other own,
          Bool.false_eq_true, if_false, Nat.add_zero] using left
      · simpa only [asksOf_cons, Event.asks_of_other own, Bool.false_eq_true, if_false,
          Nat.add_zero] using asked q known
    | true =>
      cases e with
      | enter n => cases own
      | turn k t reply =>
        obtain rfl : i = k := by simpa [Event.isTurnOf] using own
        obtain ⟨found, rfl⟩ := after?_turn_eq_some.mp after
        cases present.symm.trans found
        obtain ⟨same, aside', -⟩ := Thread.step_of_isAside aside (fun _ is => by cases is)
          (.inr fun _ is => by cases is) reply
        have unasked := Worker.request_step_of_stale aside.2 reply
        have cells : (s.advance cfg i (.worker w) reply).cells = s.cells := same
        have next : (s.advance cfg i (.worker w) reply).threads[i]? =
            some (.worker (w.step cfg s.cells reply).next) := getElem?_advance_self present
        have nextAside : (Thread.worker (w.step cfg s.cells reply).next).IsAside
            (s.advance cfg i (.worker w) reply).cells.generation := by
          rw [cells]
          exact aside'
        obtain ⟨w', there, aside'', stays, left, asked⟩ := ih next nextAside later rest
        refine ⟨w', there, aside'', ?_, ?_, fun q known => ?_⟩
        · rintro rfl
          exact stays rfl
        · by_cases running : w = .ended
          · subst running
            exact .inl (stays rfl)
          · have nearer := Worker.turnsLeft_step_of_stale aside.1 running aside.2 reply i
            refine left.imp_right fun left => ?_
            rw [turnsOf_cons, own, if_pos rfl, changesTold_cons]
            omega
        · -- After this turn it does not ask for it any more.
          have later := asked q known
          have gone : (w.step cfg s.cells reply).next.request cfg ≠ q := by
            rintro rfl
            exact Bool.false_ne_true (unasked.symm.trans known)
          rw [if_neg gone] at later
          rw [asksOf_cons]
          simp only [Event.asks, Thread.request, beq_self_eq_true, Bool.true_and, beq_iff_eq]
          omega

end System

/-- What a worker that a reset has superseded has done since, and what it can do: nothing that
anybody would notice. -/
structure Powerless (cfg : Config) (s : System) (i : Nat) (w : Worker) (es : List (Event cfg))
    (w' : Worker) : Prop where
  /-- It is the worker that stood at `w` before these events, and stands at `w'` now. -/
  present : s.threads[i]? = some (.worker w')
  /-- Its next turn, whatever it is told, changes no cell. -/
  writesNothing : ∀ reply, (w'.step cfg s.cells reply).cells = s.cells
  /-- Nor does it give a subscription back. -/
  keeps : ∀ reply, (w'.step cfg s.cells reply).unsubscribed = none
  /-- It is not about to fail, or to be ready. -/
  concludesNothing : ∀ j e stage, w' ≠ .conclude j e stage
  /-- It has looked at the interfaces once at most, and only if that is where it stood. -/
  looks : asksOf i .listInterfaces es ≤ if w.request cfg = .listInterfaces then 1 else 0
  /-- It has read no clock, unless it was reading it. -/
  reads : asksOf i .readClock es ≤ if w.request cfg = .readClock then 1 else 0
  /-- It has ended as soon as it has had three turns more than it was told of changes. -/
  ends : changesTold i es + 3 ≤ turnsOf i es → w' = .ended

/-- A superseded worker is powerless for the rest of every run. -/
theorem System.powerless {s s' : System} {es : List (Event cfg)} {i : Nat} {w : Worker}
    (present : s.threads[i]? = some (.worker w))
    (aside : (Thread.worker w).IsAside s.cells.generation) (timely : s.Timely es)
    (run : s.run? es = some s') : ∃ w', Powerless cfg s' i w es w' := by
  obtain ⟨w', there, ⟨still, -⟩, -, left, asked⟩ := afterlife present aside timely run
  obtain ⟨same, keeps⟩ := w'.written_of_writesLeft still s'.cells
  refine ⟨w', there, fun reply => ?_, fun reply => ?_, ?_, asked _ rfl, asked _ rfl,
    fun acted => ?_⟩
  · rw [w'.cells_step, same]
  · rw [w'.unsubscribed_step, keeps]
    rfl
  · rintro j e stage rfl
    cases stage <;> cases still
  · refine left.elim id fun left => ?_
    have bound := w.turnsLeft_le
    exact Worker.turnsLeft_eq_zero.mp (by omega)

end Uplink.Readiness
