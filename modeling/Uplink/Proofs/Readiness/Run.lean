import Uplink.Proofs.Entries
import Uplink.Proofs.Runs
import Uplink.Readiness.System

/-!
# Runs of a coordinator

What happens to a coordinator is either the turn of one of its threads, with the reply that it got,
or the entrance of a newcomer. A run is a list of such events, so that what was asked and answered
on the way can be read off it.

## Main definitions

- `Event`: one thing that happens to a system; `System.after?` is what it leads to.
- `System.run?`: what a list of events leads to.
- `turnsOf`: how many turns a thread takes.
- `Calm`: no reset comes in.

## Main results

- `System.step_iff_after?`, `System.reachable_iff_run?`: events are the steps, and runs the
  sequences of steps.
- `System.threads_advance`: who stands where after a turn.
-/

namespace Uplink.Readiness

/-- A thread that comes in from outside. -/
inductive Newcomer where
  | call (setup : Setup)
  | reset
  | watch
  deriving DecidableEq, Repr

/-- The place at which a newcomer begins. -/
def Newcomer.thread : Newcomer → Thread
  | call setup => .caller (.claim setup)
  | reset => .reset .supersede
  | watch => .watcher .watch

/-- One thing that happens to a system. -/
inductive Event (cfg : Config) where
  /-- The `i`-th thread, which stands at `t`, takes its step with this reply. -/
  | turn (i : Nat) (t : Thread) (reply : (t.request cfg).Reply)
  | enter (n : Newcomer)

variable {cfg : Config}

/-- Whether a reset comes in. -/
def Event.isReset : Event cfg → Bool
  | enter .reset => true
  | _ => false

/-- Whether it is the turn of the `i`-th thread. -/
def Event.isTurnOf (i : Nat) : Event cfg → Bool
  | turn j _ _ => i == j
  | enter _ => false

/-- How many turns the `i`-th thread takes during these events. -/
def turnsOf (i : Nat) (es : List (Event cfg)) : Nat := es.countP (·.isTurnOf i)

@[simp] theorem turnsOf_nil (i : Nat) : turnsOf i ([] : List (Event cfg)) = 0 := rfl

@[simp] theorem turnsOf_cons (i : Nat) (e : Event cfg) (es : List (Event cfg)) :
    turnsOf i (e :: es) = turnsOf i es + if e.isTurnOf i then 1 else 0 := by
  simp [turnsOf, List.countP_cons]

/-- No reset comes in during these events. -/
def Calm (es : List (Event cfg)) : Prop := ∀ e ∈ es, e.isReset = false

instance (es : List (Event cfg)) : Decidable (Calm es) :=
  inferInstanceAs (Decidable (∀ e ∈ es, e.isReset = false))

namespace Calm

variable {e : Event cfg} {es fs : List (Event cfg)}

theorem head (calm : Calm (e :: es)) : e.isReset = false := calm e List.mem_cons_self

theorem tail (calm : Calm (e :: es)) : Calm es :=
  fun f mem => calm f (List.mem_cons_of_mem e mem)

theorem left (calm : Calm (es ++ fs)) : Calm es :=
  fun f mem => calm f (List.mem_append_left fs mem)

theorem right (calm : Calm (es ++ fs)) : Calm fs :=
  fun f mem => calm f (List.mem_append_right es mem)

end Calm

namespace System

/-- The system after a newcomer has come in. -/
def join (s : System) (n : Newcomer) : System := { s with threads := s.threads ++ [n.thread] }

@[simp] theorem cells_join (s : System) (n : Newcomer) : (s.join n).cells = s.cells := rfl

@[simp] theorem threads_join (s : System) (n : Newcomer) :
    (s.join n).threads = s.threads ++ [n.thread] := rfl

@[simp] theorem cells_advance (s : System) (i : Nat) (t : Thread) (reply : (t.request cfg).Reply) :
    (s.advance cfg i t reply).cells = (t.step cfg s.cells reply).cells := rfl

/-- What an event leads to; the turn of a thread that does not stand there is no event. -/
def after? (s : System) : Event cfg → Option System
  | .turn i t reply =>
    if s.threads[i]? = some t then some (s.advance cfg i t reply) else none
  | .enter n => some (s.join n)

/-- What a list of events leads to. -/
abbrev run? (s : System) (es : List (Event cfg)) : Option System := runFrom? after? s es

variable {s s' : System}

theorem after?_turn_eq_some {i : Nat} {t : Thread} {reply : (t.request cfg).Reply} :
    s.after? (.turn i t reply) = some s' ↔
      s.threads[i]? = some t ∧ s.advance cfg i t reply = s' := by
  simp [after?]

@[simp] theorem after?_enter (n : Newcomer) :
    s.after? (.enter n : Event cfg) = some (s.join n) := rfl

/-- Events are the steps of a system. -/
theorem step_iff_after? : Step cfg s s' ↔ ∃ e : Event cfg, s.after? e = some s' := by
  constructor
  · rintro (⟨i, t, present, reply⟩ | ⟨setup⟩ | _ | _)
    · exact ⟨.turn i t reply, after?_turn_eq_some.mpr ⟨present, rfl⟩⟩
    · exact ⟨.enter (.call setup), rfl⟩
    · exact ⟨.enter .reset, rfl⟩
    · exact ⟨.enter .watch, rfl⟩
  · rintro ⟨⟨i, t, reply⟩ | (setup | _ | _), after⟩
    · obtain ⟨present, rfl⟩ := after?_turn_eq_some.mp after
      exact .move s i t present reply
    · cases after
      exact .call s setup
    · cases after
      exact .reset s
    · cases after
      exact .watch s

/-- Runs are the sequences of steps. -/
theorem reachable_iff_run? :
    Relation.ReflTransGen (Step cfg) s s' ↔ ∃ es : List (Event cfg), s.run? es = some s' :=
  reachable_iff_runFrom? step_iff_after?

/-! ## Who stands where after a turn -/

variable {i j : Nat} {t u : Thread} {reply : (t.request cfg).Reply}

theorem threads_advance (s : System) (i : Nat) (t : Thread) (reply : (t.request cfg).Reply) :
    (s.advance cfg i t reply).threads =
      s.threads.set i (t.step cfg s.cells reply).next ++
        ((t.started? cfg reply).map Thread.worker).toList := rfl

/-- The thread whose turn it was stands where its step leads. -/
theorem getElem?_advance_self (present : s.threads[i]? = some t) :
    (s.advance cfg i t reply).threads[i]? = some (t.step cfg s.cells reply).next :=
  getElem?_set_append_self present

/-- Whoever else was there stands where it stood. -/
theorem getElem?_advance_of_ne (present : s.threads[j]? = some u) (other : j ≠ i) :
    (s.advance cfg i t reply).threads[j]? = some u :=
  getElem?_set_append_of_ne present other

/-- A worker that was started comes last. -/
theorem getElem?_advance_started {w : Worker} (started : t.started? cfg reply = some w) :
    (s.advance cfg i t reply).threads[s.threads.length]? = some (.worker w) := by
  rw [threads_advance, started]
  exact getElem?_set_append_last ..

/-- Whoever stands somewhere after a turn took it, was there before, or was started by it. -/
theorem getElem?_advance (found : (s.advance cfg i t reply).threads[j]? = some u) :
    (j = i ∧ u = (t.step cfg s.cells reply).next) ∨
      (j ≠ i ∧ s.threads[j]? = some u) ∨
      (j = s.threads.length ∧ ∃ w, t.started? cfg reply = some w ∧ u = .worker w) := by
  rcases getElem?_set_append found with self | other | ⟨last, started⟩
  · exact .inl self
  · exact .inr (.inl other)
  · obtain ⟨w, started, worker⟩ := Option.map_eq_some_iff.mp started
    exact .inr (.inr ⟨last, w, started, worker.symm⟩)

/-- After a turn that starts nobody, all threads but one are of a kind if they were before and the
one whose turn it was is now. -/
theorem forall_ne_advance {P : Thread → Prop} {k : Nat} (alone : t.started? cfg reply = none)
    (next : i ≠ k → P (t.step cfg s.cells reply).next)
    (others : ∀ j u, j ≠ k → j ≠ i → s.threads[j]? = some u → P u) :
    ∀ j u, j ≠ k → (s.advance cfg i t reply).threads[j]? = some u → P u := by
  intro j u apart found
  rcases getElem?_advance found with ⟨rfl, rfl⟩ | ⟨other, old⟩ | ⟨-, w, started, -⟩
  · exact next apart
  · exact others j u apart other old
  · cases alone.symm.trans started

/-- After a turn that starts nobody, all threads are of a kind if the others were before and the one
whose turn it was is now. -/
theorem forall_mem_advance {P : Thread → Prop} (alone : t.started? cfg reply = none)
    (next : P (t.step cfg s.cells reply).next)
    (others : ∀ j u, j ≠ i → s.threads[j]? = some u → P u) :
    ∀ u ∈ (s.advance cfg i t reply).threads, P u := by
  intro u mem
  obtain ⟨j, found⟩ := List.mem_iff_getElem?.mp mem
  rcases getElem?_advance found with ⟨-, rfl⟩ | ⟨other, old⟩ | ⟨-, w, started, -⟩
  · exact next
  · exact others j u other old
  · cases alone.symm.trans started

/-- Whoever stands somewhere after a newcomer has come in was there before, or is the newcomer. -/
theorem getElem?_join {n : Newcomer} (found : (s.join n).threads[j]? = some u) :
    s.threads[j]? = some u ∨ (j = s.threads.length ∧ u = n.thread) :=
  getElem?_concat found

/-- Whoever was there before a newcomer came in stands where it stood. -/
theorem getElem?_join_of_some {n : Newcomer} (present : s.threads[j]? = some u) :
    (s.join n).threads[j]? = some u :=
  getElem?_append_of_some present

/-- Only its own turn moves a thread. -/
theorem thread_after? {e : Event cfg} (present : s.threads[j]? = some u)
    (other : e.isTurnOf j = false) (after : s.after? e = some s') : s'.threads[j]? = some u := by
  cases e with
  | enter n =>
    cases after
    exact getElem?_join_of_some present
  | turn i t reply =>
    obtain ⟨-, rfl⟩ := after?_turn_eq_some.mp after
    refine getElem?_advance_of_ne present ?_
    rintro rfl
    simp [Event.isTurnOf] at other

end System

/-! ## The start of a worker

Runs in which a worker does something begin like this. -/

/-- A setup with events, with DHCP and without a clock. -/
def subscribed : Setup := ⟨.events, none, false⟩

/-- What its worker is started with. -/
def subscribedJob : Job := ⟨⟨0⟩, none, false, 0⟩

/-- Such a setup up to the start of its worker; these interfaces are found, and the one with this
name is configured. -/
def startOfWorker (interfaces : List Interface) (name : String) : List (Event {}) :=
  [.enter (.call subscribed),
    .turn 0 (.caller (.claim subscribed)) (),
    .turn 0 (.caller (.readGeneration subscribed)) (),
    .turn 0 (.caller (.start subscribed (.events 0))) (),
    .turn 0 (.caller (.find subscribed (.events 0))) (.ok interfaces),
    .turn 0 (.caller (.subscribe subscribed 0 name)) (.ok ⟨0⟩),
    .turn 0 (.caller (.keepSubscription subscribed 0 name ⟨0⟩)) (),
    .turn 0 (.caller (.assign subscribed (.events 0 ⟨0⟩) name)) (.ok ()),
    .turn 0 (.caller (.setServers subscribed (.events 0 ⟨0⟩) name)) (.ok ()),
    .turn 0 (.caller (.keepConfiguration subscribed (.events 0 ⟨0⟩))) (),
    .turn 0 (.caller (.settle subscribed (.events 0 ⟨0⟩))) (),
    .turn 0 (.caller (.startWorker subscribed 0 ⟨0⟩)) (.ok ())]

end Uplink.Readiness
