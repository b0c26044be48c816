import Uplink.Proofs.IpConfiguration
import Uplink.Proofs.Readiness.PromptPolling

/-!
# The two ways to wait agree

A setup with events hands its wait to a worker that a subscription tells of the address; a polling
one looks for it again and again. On a network that assigns at once they come to the same.

What is shown is that the first simulates the second, step for step but for the steps that the
second has no use for. It subscribes, it checks for resets, it gives its subscription back; while it
does so the polling setup stands still, and only for so long. As long as there has been no reset,
each other step shows what the next step of the polling setup shows. Since a polling setup on such a
network has one course, both come to its end or neither does.

## Main definitions

- `Twin`: which places go together.
- `stuttersLeft`: for how long the polling setup stands still.
- `Related`: two setups in worlds that look the same.
- `World.Agrees`: what two setups agree in that are told apart by the calls for subscriptions only.

## Main results

- `Related.turn?`, `Related.advances`: each turn is one of the polling setup or nothing to it, and
  there is always one that helps.
- `Related.ends`, `Related.ends_of_polling`: where one ends the other does.
- `entry_points_agree`: the two ways agree.
-/

namespace Uplink.Readiness

variable {cfg : Config} {c : Cells}

/-! ## Side by side -/

/-- The same setup, with another way to wait. -/
def Setup.by (s : Setup) (m : Mode) : Setup := { s with mode := m }

/-- Which places of a worker and of a polling caller go together. The worker does some things that
the caller has no step for; meanwhile the caller stands still. -/
inductive Worker.Twin (target : InterfaceKind) (s : Setup) (j : Job) : Worker → Caller → Prop
  | look : Twin target s j (.look j) (.poll (s.by .polling))
  | checkFault (f : Fault) :
      Twin target s j (.checkFault j f) (.conclude (s.by .polling) (.failed f) .release)
  | checkAddress : Twin target s j (.checkAddress j) (.observe (s.by .polling))
  | observe : Twin target s j (.observe j) (.observe (s.by .polling))
  | releaseForClock (waits : s.requiresClock = true) :
      Twin target s j (.release j) (.checkTokenForClock (s.by .polling))
  | releaseAtOnce (waits : ¬ s.requiresClock = true) :
      Twin target s j (.release j) (.conclude (s.by .polling) .ready .publish)
  | checkClock : Twin target s j (.checkClock j) (.checkTokenForClock (s.by .polling))
  | readClock : Twin target s j (.readClock j) (.readClock (s.by .polling))
  | clockPause : Twin target s j (.clockPause j) (.clockPause (s.by .polling))
  | checkReady : Twin target s j (.checkReady j) (.conclude (s.by .polling) .ready .publish)
  | conclude (e : Ending) (stage : Ending.Stage) (present : ∀ n, e ≠ .noInterface n) :
      Twin target s j (.conclude j e stage) (.conclude (s.by .polling) e stage)
  | ended (e : Ending) (present : ∀ n, e ≠ .noInterface n) :
      Twin target s j .ended (.returned (e.verdict target .polling))

/-- Which threads of a setup with events and which place of a polling caller go together: first
those of the calling thread, then those of the worker that it has started. -/
inductive Twin (target : InterfaceKind) (s : Setup) : List Thread → Caller → Prop
  | claim : Twin target s [.caller (.claim (s.by .events))] (.claim (s.by .polling))
  | refused : Twin target s [.caller (.returned (.refused .alreadySetUp))]
      (.returned (.refused .alreadySetUp))
  | readGeneration :
      Twin target s [.caller (.readGeneration (s.by .events))] (.start (s.by .polling) .polling)
  | start : Twin target s [.caller (.start (s.by .events) (.events 0))]
      (.start (s.by .polling) .polling)
  | find : Twin target s [.caller (.find (s.by .events) (.events 0))]
      (.find (s.by .polling) .polling)
  | subscribe (i : String) : Twin target s [.caller (.subscribe (s.by .events) 0 i)]
      (.assign (s.by .polling) .polling i)
  | keepSubscription (i : String) (id : SubscriptionId) :
      Twin target s [.caller (.keepSubscription (s.by .events) 0 i id)]
        (.assign (s.by .polling) .polling i)
  | assign (i : String) (id : SubscriptionId) :
      Twin target s [.caller (.assign (s.by .events) (.events 0 id) i)]
        (.assign (s.by .polling) .polling i)
  | setServers (i : String) (id : SubscriptionId) :
      Twin target s [.caller (.setServers (s.by .events) (.events 0 id) i)]
        (.setServers (s.by .polling) .polling i)
  | keepConfiguration (id : SubscriptionId) :
      Twin target s [.caller (.keepConfiguration (s.by .events) (.events 0 id))]
        (.keepConfiguration (s.by .polling) .polling)
  | settle (id : SubscriptionId) :
      Twin target s [.caller (.settle (s.by .events) (.events 0 id))]
        (.settle (s.by .polling) .polling)
  | startWorker (id : SubscriptionId) :
      Twin target s [.caller (.startWorker (s.by .events) 0 id)] (.checkToken (s.by .polling))
  | conclude (e : Ending) (stage : Ending.Stage) :
      Twin target s [.caller (.conclude (s.by .events) e stage)]
        (.conclude (s.by .polling) e stage)
  | returned (e : Ending) : Twin target s [.caller (.returned (e.verdict target .events))]
      (.returned (e.verdict target .polling))
  | worker (id : SubscriptionId) {w : Worker} {q : Caller}
      (twin : w.Twin target s ⟨id, s.desired, s.requiresClock, 0⟩ q) :
      Twin target s [.caller (.returned .accepted), .worker w] q

/-- How many turns the threads take until the polling caller takes its next one, at most. -/
def stuttersLeft : List Thread → Nat
  | [.caller (.subscribe ..)] | [_, .worker (.release _)] => 2
  | [.caller (.readGeneration _)] | [.caller (.keepSubscription ..)]
  | [_, .worker (.checkAddress _)] | [_, .worker (.checkReady _)]
  | [_, .worker (.checkFault ..)] => 1
  | _ => 0

/-- Threads that go with a polling caller are over when it is. -/
theorem Twin.isOver_iff {target : InterfaceKind} {s : Setup} {ts : List Thread} {q : Caller}
    (twin : Twin target s ts q) : (∀ t ∈ ts, t.isOver = true) ↔ ∃ r, q = .returned r := by
  cases twin with
  | worker id twin => cases twin <;> simp [Thread.isOver]
  | _ => simp [Thread.isOver]

theorem Twin.threads_eq {target : InterfaceKind} {s : Setup} {ts : List Thread} {q : Caller}
    (twin : Twin target s ts q) :
    (∃ t, ts = [.caller t]) ∨ ∃ u, ts = [.caller (.returned .accepted), .worker u] := by
  cases twin with
  | worker => exact .inr ⟨_, rfl⟩
  | _ => exact .inl ⟨_, rfl⟩

/-- Where there are two threads, the second one is the worker, and goes with the polling caller. -/
theorem Twin.of_worker {target : InterfaceKind} {s : Setup} {t : Thread} {u : Worker} {q : Caller}
    (twin : Twin target s [t, .worker u] q) :
    ∃ id, u.Twin target s ⟨id, s.desired, s.requiresClock, 0⟩ q := by
  cases twin with
  | worker id twin => exact ⟨id, twin⟩

/-- A setup with events and a polling one, in worlds that look the same. -/
structure Related (cfg : Config) (s : Setup) (w v : World Bench) (q : Caller) : Prop where
  lone : Lone cfg (s.by .polling) v q
  twin : Twin cfg.target s w.system.threads q
  /-- There has been no reset. -/
  unreset : w.system.cells.generation = 0
  view : w.view = v.view

namespace Related

variable {s : Setup} {w w' v v' : World Bench} {q : Caller} {x : Conditions} {i : Nat}
  {is : List Nat} {t : Thread} {ts : List Thread}

theorem unreset_turn (related : Related cfg s w v q) (calm : t ≠ .reset .supersede) :
    (w.turn cfg x.outside i t).system.cells.generation = 0 := by
  rw [World.turn, System.cells_advance, t.cells_step, t.generation_written, if_neg calm]
  exact related.unreset

/-- A turn that shows what a turn of the polling caller shows, and leads to a place that goes with
the one where that leads. -/
theorem matched (related : Related cfg s w v q)
    (shows : ∀ V : View, V.after cfg x t = V.after cfg x (.caller q))
    (calm : t ≠ .reset .supersede) (threads : (w.turn cfg x.outside i t).system.threads = ts)
    (twin : Twin cfg.target s ts (x.move cfg v.outside v.system.cells q).next) :
    ∃ v' q', v.turn? cfg x.outside 0 = some v' ∧
      Related cfg s (w.turn cfg x.outside i t) v' q' := by
  have lone := related.lone
  refine ⟨_, _, lone.turn?_eq_some.mpr ⟨rfl, rfl⟩, lone.turn, threads ▸ twin,
    related.unreset_turn calm, ?_⟩
  rw [World.view_turn, World.view_turn, related.view, shows]

/-- A turn that shows nothing, and leads to a place that goes with that of the polling caller. -/
theorem stutters (related : Related cfg s w v q)
    (unseen : (t.request cfg).seen = .nothing ∧ (t.request cfg).call? = none)
    (unwritten : ∀ c : Cells, (t.written c).unheard = c.unheard) (calm : t ≠ .reset .supersede)
    (threads : (w.turn cfg x.outside i t).system.threads = ts) (twin : Twin cfg.target s ts q) :
    Related cfg s (w.turn cfg x.outside i t) v q := by
  refine ⟨related.lone, threads ▸ twin, related.unreset_turn calm, ?_⟩
  obtain ⟨seen, called⟩ := unseen
  rw [World.view_turn, View.after, seen, called, unwritten, ← related.view, Option.toList_none,
    List.append_nil]
  rfl

/-- What a turn can be to the polling setup: one of its turns, or nothing. A turn that is nothing
brings the next one nearer, unless the thread is over. -/
def Follows (cfg : Config) (x : Conditions) (s : Setup) (w v : World Bench) (q : Caller) (i : Nat)
    (t : Thread) : Prop :=
  (∃ v' q', v.turn? cfg x.outside 0 = some v' ∧
      Related cfg s (w.turn cfg x.outside i t) v' q') ∨
    Related cfg s (w.turn cfg x.outside i t) v q ∧
      (t.isOver = true ∨
        stuttersLeft (w.turn cfg x.outside i t).system.threads < stuttersLeft w.system.threads)

/-- The turn of a calling thread that has not started its worker. -/
theorem turn_of_caller (related : Related cfg s w v q) {t : Caller}
    (alone : w.system.threads = [.caller t]) : Follows cfg x s w v q 0 (.caller t) := by
  have twin := related.twin
  have threads : (w.turn cfg x.outside 0 (.caller t)).system.threads =
      .caller (x.move cfg w.outside w.system.cells t).next ::
        ((Thread.started? cfg (.caller t)
          (x.outside.answer w.outside (t.request cfg)).1).map Thread.worker).toList := by
    simp only [World.turn, System.threads_advance, alone]
    rfl
  have benches : w.outside.unheard = v.outside.unheard := congrArg View.bench related.view
  have calm : Thread.caller t ≠ .reset .supersede := by simp
  rw [Follows, alone]
  rw [alone] at twin
  cases twin with
  | claim =>
    have claimed : w.system.cells.claimed = v.system.cells.claimed :=
      congrArg (fun V => V.cells.claimed) related.view
    refine .inl (related.matched (fun _ => rfl) calm threads ?_)
    show Twin cfg.target s [.caller (Caller.stepClaim (s.by .events) w.system.cells).next]
      (Caller.stepClaim (s.by .polling) v.system.cells).next
    rw [Caller.stepClaim, Caller.stepClaim, claimed]
    split
    · exact .refused
    · exact .readGeneration
  | refused =>
    exact .inr ⟨related.stutters ⟨rfl, rfl⟩ (fun _ => rfl) calm threads .refused, .inl rfl⟩
  | readGeneration =>
    -- The polling setup has no use for the count of resets, nor for a subscription.
    have next : x.move cfg w.outside w.system.cells (.readGeneration (s.by .events)) =
        { cells := w.system.cells, next := .start (s.by .events) (.events 0) } := by
      simp only [Conditions.move, Caller.step, related.unreset]
    rw [next] at threads
    refine .inr ⟨related.stutters ⟨rfl, rfl⟩ (fun _ => rfl) calm threads .start, .inr ?_⟩
    rw [threads]
    exact Nat.zero_lt_one
  | start => exact .inl (related.matched (fun _ => rfl) calm threads .find)
  | find =>
    refine .inl (related.matched (fun _ => rfl) calm threads ?_)
    show Twin cfg.target s
      [.caller
        (Caller.stepFind cfg (s.by .events) (.events 0) w.system.cells (x.look w.outside)).next]
      (Caller.stepFind cfg (s.by .polling) .polling v.system.cells (x.look v.outside)).next
    rw [x.look_eq benches]
    unfold Caller.stepFind
    cases x.look v.outside with
    | error cause => exact .conclude _ _
    | ok interfaces =>
      simp only
      cases Probe.pick? cfg.target interfaces with
      | none => exact .conclude _ _
      | some i => exact .subscribe i.name
  | subscribe i =>
    refine .inr ⟨related.stutters ⟨rfl, rfl⟩ (fun _ => rfl) calm threads ?_, .inr ?_⟩
    · exact .keepSubscription i _
    · rw [threads]
      exact Nat.one_lt_two
  | keepSubscription i id =>
    refine .inr ⟨related.stutters ⟨rfl, rfl⟩ (fun _ => rfl) calm threads (.assign i id), .inr ?_⟩
    rw [threads]
    exact Nat.zero_lt_one
  | assign i id =>
    refine .inl (related.matched (fun _ => rfl) calm threads ?_)
    show Twin cfg.target s
      [.caller (Caller.stepAssign (s.by .events) (.events 0 id) i w.system.cells
        (x.command w.outside.network (Caller.addressCommand s i)).2).next]
      (Caller.stepAssign (s.by .polling) .polling i v.system.cells
        (x.command v.outside.network (Caller.addressCommand s i)).2).next
    rw [x.command_eq benches]
    cases (x.command v.outside.network (Caller.addressCommand s i)).2 with
    | error cause => exact .conclude _ _
    | ok _ => exact .setServers i id
  | setServers i id =>
    refine .inl (related.matched (fun _ => rfl) calm threads ?_)
    show Twin cfg.target s
      [.caller (Caller.stepSetServers (s.by .events) (.events 0 id) i w.system.cells
        (x.command w.outside.network (Caller.serversCommand s i)).2).next]
      (Caller.stepSetServers (s.by .polling) .polling i v.system.cells
        (x.command v.outside.network (Caller.serversCommand s i)).2).next
    rw [x.command_eq benches]
    cases (x.command v.outside.network (Caller.serversCommand s i)).2 with
    | error cause => exact .conclude _ _
    | ok _ => exact .keepConfiguration id
  | keepConfiguration id =>
    exact .inl (related.matched (fun _ => rfl) calm threads (.settle id))
  | settle id => exact .inl (related.matched (fun _ => rfl) calm threads (.startWorker id))
  | startWorker id =>
    exact .inl (related.matched (fun _ => rfl) calm threads (.worker id .look))
  | conclude e stage =>
    refine .inl (related.matched (fun _ => rfl) calm threads ?_)
    cases stage with
    | release => cases e <;> exact .conclude _ _
    | keepFault | publish => exact .conclude _ _
    | settle => exact .returned e
  | returned e =>
    exact .inr ⟨related.stutters ⟨rfl, rfl⟩ (fun _ => rfl) calm threads (.returned e), .inl rfl⟩

/-- The turn of a worker. -/
theorem turn_of_worker (related : Related cfg s w v q) {u : Worker}
    (pair : w.system.threads = [.caller (.returned .accepted), .worker u]) :
    Follows cfg x s w v q 1 (.worker u) := by
  have twin := related.twin
  have threads : (w.turn cfg x.outside 1 (.worker u)).system.threads =
      [.caller (.returned .accepted),
        .worker (u.step cfg w.system.cells
          (x.outside.answer w.outside (u.request cfg)).1).next] := by
    simp only [World.turn, System.threads_advance, pair]
    rfl
  have benches : w.outside.unheard = v.outside.unheard := congrArg View.bench related.view
  have calm : Thread.worker u ≠ .reset .supersede := by simp
  rw [Follows, pair]
  rw [pair] at twin
  obtain ⟨id, twin⟩ := twin.of_worker
  -- There has been no reset, so no check finds one.
  have current : w.system.cells.generation =
      (Job.generation ⟨id, s.desired, s.requiresClock, 0⟩) := related.unreset
  cases twin with
  | look =>
    -- The address is there at the first look, so the worker does not get to receive anything.
    have shows : (Caller.probe cfg (s.by .polling)).satisfiedBy v.outside.network.interfaces =
        true := by
      cases related.lone.polls
      assumption
    have shows' : (Worker.probe cfg ⟨id, s.desired, s.requiresClock, 0⟩).satisfiedBy
        v.outside.network.interfaces = true := shows
    refine .inl (related.matched (fun _ => rfl) calm threads ?_)
    show Twin cfg.target s [.caller (.returned .accepted),
        .worker (Worker.stepLook cfg ⟨id, s.desired, s.requiresClock, 0⟩ w.system.cells
          (x.look w.outside)).next]
      (Caller.stepPoll cfg (s.by .polling) v.system.cells (x.look v.outside)).next
    rw [x.look_eq benches]
    unfold Worker.stepLook Caller.stepPoll Conditions.look
    cases x.lookFault? v.outside.looks with
    | some cause => exact .worker id (.checkFault _)
    | none =>
      simp only [shows, shows', if_true]
      exact .worker id .checkAddress
  | checkFault f =>
    simp only [Worker.step, if_pos current] at threads
    refine .inr ⟨related.stutters ⟨rfl, rfl⟩ (fun _ => rfl) calm threads ?_, .inr ?_⟩
    · exact .worker id (.conclude _ _ (by simp))
    · rw [threads]
      exact Nat.zero_lt_one
  | checkAddress =>
    simp only [Worker.step, if_pos current] at threads
    refine .inr ⟨related.stutters ⟨rfl, rfl⟩ (fun _ => rfl) calm threads ?_, .inr ?_⟩
    · exact .worker id .observe
    · rw [threads]
      exact Nat.zero_lt_one
  | observe =>
    refine .inl (related.matched (fun _ => rfl) calm threads ?_)
    by_cases waits : s.requiresClock = true
    · have waits' : (s.by .polling).requiresClock = true := waits
      simp only [Conditions.move, Caller.step, Caller.stepObserve, if_pos waits']
      exact .worker id (.releaseForClock waits)
    · have waits' : ¬ (s.by .polling).requiresClock = true := waits
      simp only [Conditions.move, Caller.step, Caller.stepObserve, if_neg waits']
      exact .worker id (.releaseAtOnce waits)
  | releaseForClock waits =>
    simp only [Worker.step, if_pos waits] at threads
    refine .inr ⟨related.stutters ⟨rfl, rfl⟩ (fun _ => rfl) calm threads ?_, .inr ?_⟩
    · exact .worker id .checkClock
    · rw [threads]
      exact Nat.zero_lt_two
  | releaseAtOnce waits =>
    simp only [Worker.step, if_neg waits] at threads
    refine .inr ⟨related.stutters ⟨rfl, rfl⟩ (fun _ => rfl) calm threads ?_, .inr ?_⟩
    · exact .worker id .checkReady
    · rw [threads]
      exact Nat.one_lt_two
  | checkClock =>
    simp only [Worker.step, if_pos current] at threads
    exact .inl (related.matched (fun _ => rfl) calm threads (.worker id .readClock))
  | readClock =>
    refine .inl (related.matched (fun _ => rfl) calm threads ?_)
    show Twin cfg.target s [.caller (.returned .accepted),
        .worker (if cfg.minYear ≤ x.year w.outside.readings then .checkReady _ else .clockPause _)]
      (Caller.stepClock cfg (s.by .polling) v.system.cells (x.year v.outside.readings)).next
    rw [Conditions.readings_eq benches, Caller.stepClock]
    by_cases credible : cfg.minYear ≤ x.year v.outside.readings
    · rw [if_pos credible, if_pos credible]
      exact .worker id .checkReady
    · rw [if_neg credible, if_neg credible]
      exact .worker id .clockPause
  | clockPause =>
    exact .inl (related.matched (fun _ => rfl) calm threads (.worker id .checkClock))
  | checkReady =>
    simp only [Worker.step, if_pos current] at threads
    refine .inr ⟨related.stutters ⟨rfl, rfl⟩ (fun _ => rfl) calm threads ?_, .inr ?_⟩
    · exact .worker id (.conclude _ _ (by simp))
    · rw [threads]
      exact Nat.zero_lt_one
  | conclude e stage present =>
    refine .inl (related.matched (fun _ => rfl) calm threads ?_)
    cases stage with
    | release => cases e <;> exact .worker id (.conclude _ _ present)
    | keepFault | publish => exact .worker id (.conclude _ _ present)
    | settle => exact .worker id (.ended e present)
  | ended e present =>
    refine .inr ⟨related.stutters ⟨rfl, rfl⟩ (fun _ => rfl) calm threads ?_, .inl rfl⟩
    exact .worker id (.ended e present)

/-- The calling thread has its answer, and its turns are nothing. -/
theorem turn_of_idle (related : Related cfg s w v q) {u : Worker}
    (pair : w.system.threads = [.caller (.returned .accepted), .worker u]) :
    Related cfg s (w.turn cfg x.outside 0 (.caller (.returned .accepted))) v q := by
  have threads : (w.turn cfg x.outside 0 (.caller (.returned .accepted))).system.threads =
      w.system.threads := by
    simp only [World.turn, System.threads_advance, pair]
    rfl
  exact related.stutters ⟨rfl, rfl⟩ (fun _ => rfl) (by simp) threads related.twin

/-- Each turn of the setup with events is one of the polling setup, or nothing to it. -/
theorem turn? (related : Related cfg s w v q) (turn : w.turn? cfg x.outside i = some w') :
    (∃ v' q', v.turn? cfg x.outside 0 = some v' ∧ Related cfg s w' v' q') ∨
      Related cfg s w' v q := by
  obtain ⟨t, present, rfl⟩ := World.turn?_eq_some.mp turn
  obtain ⟨t', alone⟩ | ⟨u, pair⟩ := related.twin.threads_eq
  · rw [alone] at present
    obtain ⟨rfl, rfl⟩ : i = 0 ∧ .caller t' = t := by cases i <;> simp_all
    exact Or.imp_right And.left (related.turn_of_caller alone)
  · rw [pair] at present
    match i, present with
    | 0, present =>
      obtain rfl := Option.some.inj present
      exact .inr (related.turn_of_idle pair)
    | 1, present =>
      obtain rfl := Option.some.inj present
      exact Or.imp_right And.left (related.turn_of_worker pair)

/-- Until the setup with events is over, it has a turn that is one of the polling setup, or that
brings the next one nearer. -/
theorem advances (related : Related cfg s w v q) (running : ¬ w.isOver = true) :
    ∃ i w', w.turn? cfg x.outside i = some w' ∧
      ((∃ v' q', v.turn? cfg x.outside 0 = some v' ∧ Related cfg s w' v' q') ∨
        Related cfg s w' v q ∧
          stuttersLeft w'.system.threads < stuttersLeft w.system.threads) := by
  obtain ⟨t, alone⟩ | ⟨u, pair⟩ := related.twin.threads_eq
  · have unfinished : ¬ (Thread.caller t).isOver = true := by
      simpa [World.isOver, alone] using running
    refine ⟨0, _, World.turn?_eq_some.mpr ⟨.caller t, by rw [alone]; rfl, rfl⟩, ?_⟩
    exact (related.turn_of_caller alone).imp_right
      (And.imp_right fun over_or => over_or.resolve_left unfinished)
  · have unfinished : ¬ (Thread.worker u).isOver = true := by
      simpa [World.isOver, pair, Thread.isOver] using running
    refine ⟨1, _, World.turn?_eq_some.mpr ⟨.worker u, by rw [pair]; rfl, rfl⟩, ?_⟩
    exact (related.turn_of_worker pair).imp_right
      (And.imp_right fun over_or => over_or.resolve_left unfinished)

/-- Both are over, or none. -/
theorem isOver_iff (related : Related cfg s w v q) : w.isOver = true ↔ v.isOver = true := by
  rw [World.isOver, List.all_eq_true, related.twin.isOver_iff, related.lone.isOver_iff]

/-- Some turns of the polling setup go with any turns of the setup with events. -/
theorem turns? (related : Related cfg s w v q) (run : w.turns? cfg x.outside is = some w') :
    ∃ js v' q', v.turns? cfg x.outside js = some v' ∧ Related cfg s w' v' q' := by
  induction is generalizing w v q with
  | nil =>
    cases run
    exact ⟨[], v, q, rfl, related⟩
  | cons i is ih =>
    obtain ⟨next, turn, rest⟩ := runFrom?_cons_eq_some.mp run
    rcases related.turn? turn with ⟨v₁, q₁, turn₁, related⟩ | related
    · obtain ⟨js, v', q', run', related⟩ := ih related rest
      exact ⟨0 :: js, v', q', runFrom?_cons_eq_some.mpr ⟨v₁, turn₁, run'⟩, related⟩
    · exact ih related rest

/-- Where the setup with events has ended, so has the polling one. -/
theorem ends (related : Related cfg s w v q) (ended : w.Ends cfg x.outside w') :
    ∃ v' q', v.Ends cfg x.outside v' ∧ Related cfg s w' v' q' := by
  obtain ⟨is, run, allOver⟩ := ended
  obtain ⟨js, v', q', run', related⟩ := related.turns? run
  exact ⟨v', q', ⟨js, run', related.isOver_iff.mp allOver⟩, related⟩

/-- If the polling setup ends, the one with events can be brought to its end. -/
theorem ends_of_polling (related : Related cfg s w v q) (ended : v.Ends cfg x.outside v') :
    ∃ w', w.Ends cfg x.outside w' := by
  obtain ⟨js, run, allOver⟩ := ended
  induction js generalizing w v q with
  | nil =>
    cases run
    exact ⟨w, .of_isOver (related.isOver_iff.mpr allOver)⟩
  | cons j js ih =>
    obtain ⟨next, turn, rest⟩ := runFrom?_cons_eq_some.mp run
    obtain ⟨rfl, rfl⟩ := related.lone.turn?_eq_some.mp turn
    -- Until that turn, the setup with events takes some turns that the polling one does not see.
    induction left : stuttersLeft w.system.threads using Nat.strongRecOn generalizing w with
    | ind n inner =>
      by_cases finished : w.isOver = true
      · exact ⟨w, .of_isOver finished⟩
      obtain ⟨i, w₁, moved, ⟨v₁, q₁, turn₁, related⟩ | ⟨related, fewer⟩⟩ :=
        related.advances (x := x) finished
      · obtain rfl := Option.some.inj (turn.symm.trans turn₁)
        obtain ⟨w', ends⟩ := ih related rest
        exact ⟨w', .of_turn? moved ends⟩
      · obtain ⟨w', ends⟩ := inner _ (left ▸ fewer) related rfl
        exact ⟨w', .of_turn? moved ends⟩

end Related

/-! ## Agreement -/

namespace World

/-- A new coordinator on a bench, and a caller with a setup. -/
def begin (s : Setup) (n : SimulatedNetwork) : World Bench where
  system := { threads := [.caller (.claim s)] }
  outside := { network := n }

/-- The calls to the network and to the clock. -/
def calls (w : World Bench) : List Errand := w.dealt.flatMap fun (_, d) => d.errand?.toList

/-- The error that the first caller got back, if it got one. -/
def refusal? (w : World Bench) : Option SetupError :=
  match w.system.threads with
  | .caller (.returned (.refused e)) :: _ => some e
  | _ => none

/-- What two setups agree in when only the calls for subscriptions tell them apart. -/
structure Agrees (w v : World Bench) : Prop where
  status : w.system.cells.status = v.system.cells.status
  lastError : w.system.cells.lastError = v.system.cells.lastError
  applied : w.system.cells.applied = v.system.cells.applied
  addressObserved : w.system.cells.addressObserved = v.system.cells.addressObserved
  interfaces : w.outside.network.interfaces = v.outside.network.interfaces
  staticApplied : w.outside.network.staticApplied = v.outside.network.staticApplied
  servers : w.outside.network.servers = v.outside.network.servers
  dhcpApplied : w.outside.network.dhcpApplied = v.outside.network.dhcpApplied
  refusal? : w.refusal? = v.refusal?
  calls : w.calls.filter (!·.isSubscription) = v.calls.filter (!·.isSubscription)

theorem calls_view (w : World Bench) : w.view.calls = w.calls.filter (!·.isSubscription) := by
  simp only [calls, List.filter_flatMap]
  rfl

end World

variable {s : Setup} {n : SimulatedNetwork} {w v : World Bench} {q : Caller}

/-- The callers get the same error, or none. -/
theorem Related.refusal?_eq (related : Related cfg s w v q) : w.refusal? = v.refusal? := by
  have twin := related.twin
  rw [World.refusal?, World.refusal?, related.lone.place]
  generalize w.system.threads = ts at twin
  cases twin with
  | worker id twin =>
    cases twin with
    | ended e present =>
      cases e with
      | noInterface found => exact absurd rfl (present found)
      | _ => rfl
    | _ => rfl
  | returned e => cases e <;> rfl
  | _ => rfl

theorem Related.agrees (related : Related cfg s w v q) : w.Agrees v := by
  have cells : w.system.cells.unheard = v.system.cells.unheard := congrArg View.cells related.view
  have network : w.outside.network.unheard = v.outside.network.unheard :=
    congrArg (fun V => V.bench.network) related.view
  obtain ⟨status, -, -, observed, -, fault, applied, -⟩ := Cells.mk.inj cells
  obtain ⟨interfaces, -, -, -, static, servers, dhcp, -⟩ := SimulatedNetwork.mk.inj network
  refine ⟨status, ?_, applied, observed, interfaces, static, servers, dhcp, related.refusal?_eq, ?_⟩
  · rw [Cells.lastError, fault, Cells.lastError]
  · rw [← w.calls_view, ← v.calls_view, related.view]

/-- The two ways begin alike. -/
theorem Related.begin (prompt : n.Prompt) (made : ∀ c, s.configuration = some c → c.Made) :
    Related cfg s (.begin (s.by .events) n) (.begin (s.by .polling) n)
      (.claim (s.by .polling)) where
  lone :=
    { place := rfl
      polls := .claim prompt
      way := rfl
      usable := by
        intro a desired
        obtain ⟨c, configured, rfl⟩ := Option.map_eq_some_iff.mp desired
        exact (made c configured).address_isAny }
  twin := .claim
  unreset := rfl
  view := rfl

/-- The two ways to wait agree. Let a coordinator be new, its network assign at once, and no two of
its interfaces have the same name; let any look and any command fail, commands be refused, and the
clock show what it likes; and let the token of the polling setup never fire.

Then wherever the threads of the setup with events end, and wherever the polling one ends, there are
the same status, error, configuration and signal of an address, the same interfaces and notes of the
network, the same error for the caller or none, and the same calls but for those that subscribe and
unsubscribe. If one of them ends so does the other; and if no clock is needed, or some reading of it
would be plausible, the setup with events can be brought to its end from wherever its threads have
got to. If nothing fails, and there is an interface to configure, the status is then that the
network is ready. -/
theorem entry_points_agree (x : Conditions) (prompt : n.Prompt)
    (made : ∀ c, s.configuration = some c → c.Made) :
    (∀ w v, (World.begin (s.by .events) n).Ends cfg x.outside w →
      (World.begin (s.by .polling) n).Ends cfg x.outside v → w.Agrees v) ∧
    ((∃ w, (World.begin (s.by .events) n).Ends cfg x.outside w) ↔
      ∃ v, (World.begin (s.by .polling) n).Ends cfg x.outside v) ∧
    ((s.requiresClock = true → ∃ k, cfg.minYear ≤ x.year k) →
      ∀ is w, (World.begin (s.by .events) n).turns? cfg x.outside is = some w →
        ∃ w', w.Ends cfg x.outside w') ∧
    (x.Faultless → n.refusal = none → (∃ i ∈ n.interfaces, i.kind = cfg.target) →
      ∀ w, (World.begin (s.by .events) n).Ends cfg x.outside w →
        w.system.cells.status = .ready) := by
  have begun : Related cfg s _ _ _ := .begin prompt made
  refine ⟨?_, ⟨?_, ?_⟩, ?_, ?_⟩
  · intro w v events polling
    obtain ⟨v', q', ends, related⟩ := begun.ends events
    obtain rfl := begun.lone.ends_unique polling ends
    exact related.agrees
  · rintro ⟨w, events⟩
    obtain ⟨v, q', ends, -⟩ := begun.ends events
    exact ⟨v, ends⟩
  · rintro ⟨v, polling⟩
    exact begun.ends_of_polling polling
  · intro clock is w run
    obtain ⟨k, credible⟩ : ∃ k, s.requiresClock = true → cfg.minYear ≤ x.year k := by
      by_cases waits : s.requiresClock = true
      · obtain ⟨k, credible⟩ := clock waits
        exact ⟨k, fun _ => credible⟩
      · exact ⟨0, fun waits' => absurd waits' waits⟩
    obtain ⟨v', ends⟩ := begun.lone.ends (x := x) credible (fun _ _ => Nat.zero_le k)
    obtain ⟨js, v, q', run', related⟩ := begun.turns? run
    exact related.ends_of_polling (begun.lone.ends_of_turns? ends run')
  · rintro faultless willing ⟨i, mem, kind⟩ w events
    obtain ⟨v', q', ends, related⟩ := begun.ends events
    rw [related.agrees.status]
    refine begun.lone.ready faultless willing ⟨rfl, ?_⟩ ends
    exact List.find?_isSome.mpr ⟨i, mem, beq_iff_eq.mpr kind⟩

/-- Nothing fails, and the third reading of the clock is plausible. -/
def slowClock : Conditions where
  lookFault? _ := none
  commandFault? _ := none
  year k := if k < 2 then 1970 else 2024

/-- A static configuration. -/
def desk : IpConfiguration where
  address := .ofOctets ⟨192, 168, 1, 111⟩
  mask := .ofOctets ⟨255, 255, 255, 0⟩
  gateway := .ofOctets ⟨192, 168, 1, 1⟩
  servers := []

theorem desk_made : desk.Made :=
  have accepted : IpConfiguration.make desk.address desk.mask desk.gateway = .ok desk := rfl
  .make accepted

/-- With this clock both ways end ready, and agree. -/
theorem entry_points_agree_on_slow_clock : ∃ w v,
    (World.begin ⟨.events, some desk, true⟩ .ethernet).Ends {} slowClock.outside w ∧
    (World.begin ⟨.polling, some desk, true⟩ .ethernet).Ends {} slowClock.outside v ∧
    w.Agrees v ∧ w.system.cells.status = .ready := by
  obtain ⟨agree, -, -, ready⟩ := @entry_points_agree {} ⟨.events, some desk, true⟩ .ethernet
    slowClock ⟨rfl, by decide⟩ (fun c made => by
      obtain rfl := Option.some.inj made
      exact desk_made)
  have events : (World.begin ⟨.events, some desk, true⟩ .ethernet).Ends {} slowClock.outside _ :=
    ⟨.replicate 11 0 ++ .replicate 15 1, rfl, rfl⟩
  have polling : (World.begin ⟨.polling, some desk, true⟩ .ethernet).Ends {} slowClock.outside _ :=
    ⟨.replicate 20 0, rfl, rfl⟩
  refine ⟨_, _, events, polling, agree _ _ events polling, ?_⟩
  exact ready ⟨fun _ => rfl, fun _ => rfl⟩ rfl (by decide) _ events

end Uplink.Readiness
