import Uplink.Proofs.Readiness.Following
import Uplink.Proofs.Readiness.Stage

/-!
# The course of a setup with events

On a network that carries its commands out and has an interface for it, a setup with events takes one
course. Where its one busy thread stands can be told from the network: before the subscription it is
the caller, after it the caller or the worker, and while the worker waits, its subscription hears
every write. The wait of the worker ends in one way only, with an address, and nothing takes that
back. Only the start of the worker may fail.

## Main definitions

- `Worker.isSatisfied`: the wait of a worker has ended with an address.
- `Caller.Approaches`, `Caller.Prepares`, `Worker.Listens`: the places before the subscription, from
  there to the start of the worker, and in its wait.
- `Fits`: how the place of a thread goes together with the network and the cells.
- `Course`: all threads fit, and the network serves the setup.

## Main results

- `Fits.turn`: the thread that holds the cells fits where its turn leads, and so does its worker.
- `Course.after?`: every calm event keeps the course.
-/

namespace Uplink.Readiness

variable {cfg : Config}

/-- Whether the wait of a worker has ended with an address. A worker that is done has seen it if the
cells say so. -/
def Worker.isSatisfied (c : Cells) : Worker → Bool
  | checkAddress _ | observe _ | release _ | checkClock _ | readClock _ | clockPause _
  | checkReady _ | conclude _ .ready _ => true
  | ended => c.addressObserved.isSet
  | _ => false

/-- Whether a thread is a worker. -/
def Thread.isWorker : Thread → Bool
  | worker _ => true
  | _ => false

/-! ## Who fits -/

/-- The places of a setup before its subscription. -/
inductive Caller.Approaches (s : Setup) : Caller → Prop
  | readGeneration : Approaches s (.readGeneration s)
  | start (g : UInt64) : Approaches s (.start s (.events g))
  | find (g : UInt64) : Approaches s (.find s (.events g))
  | subscribe (g : UInt64) (interface : String) : Approaches s (.subscribe s g interface)

/-- The places between its subscription and the start of its worker. -/
inductive Caller.Prepares (s : Setup) (id : SubscriptionId) : Caller → Prop
  | keepSubscription (g : UInt64) (interface : String) :
      Prepares s id (.keepSubscription s g interface id)
  | assign (g : UInt64) (interface : String) : Prepares s id (.assign s (.events g id) interface)
  | setServers (g : UInt64) (interface : String) :
      Prepares s id (.setServers s (.events g id) interface)
  | keepConfiguration (g : UInt64) : Prepares s id (.keepConfiguration s (.events g id))
  | settle (g : UInt64) : Prepares s id (.settle s (.events g id))
  | startWorker (g : UInt64) : Prepares s id (.startWorker s g id)

/-- The places of a worker that waits for what its setup waits for, with its subscription. That the
subscription has ended is not among what it finds. -/
inductive Worker.Listens (s : Setup) (id : SubscriptionId) : Worker → Prop
  | look {j : Job} (channel : j.channel = id) (desired : j.desired = s.desired) :
      Listens s id (.look j)
  | receive {j : Job} (channel : j.channel = id) (desired : j.desired = s.desired) :
      Listens s id (.receive j)
  | checkTimeout {j : Job} (channel : j.channel = id) (desired : j.desired = s.desired) :
      Listens s id (.checkTimeout j)

/-- How the place of a thread goes together with the network and the cells, for a setup with events
that was the first to be admitted. Places at which it would have failed are not among these, unless
its worker could not be started. -/
inductive Fits (s : Setup) (id : SubscriptionId) (n : SharedNetwork) (c : Cells) : Thread → Prop
  | approaches {t : Caller} (place : t.Approaches s) (new : n.Unissued id) : Fits s id n c (.caller t)
  | prepares {t : Caller} (place : t.Prepares s id) (hears : n.Hears id) : Fits s id n c (.caller t)
  | stops (cause : ErrorChain) (stage : Ending.Stage) :
      Fits s id n c (.caller (.conclude s (.failed (.starting cause)) stage))
  | listens {w : Worker} (place : w.Listens s id) (hears : n.Hears id) : Fits s id n c (.worker w)
  | satisfied {w : Worker} (satisfied : w.isSatisfied c = true) : Fits s id n c (.worker w)
  | bystander {t : Thread} (idle : t.isIdle = true) (outsider : t.isWorker = false) :
      Fits s id n c t

/-- Nobody at these places is idle. -/
theorem Caller.Approaches.not_isIdle {s : Setup} {t : Caller} (place : t.Approaches s) :
    (Thread.caller t).isIdle = false := by
  cases place <;> rfl

theorem Caller.Prepares.not_isIdle {s : Setup} {id : SubscriptionId} {t : Caller}
    (place : t.Prepares s id) : (Thread.caller t).isIdle = false := by
  cases place <;> rfl

theorem Worker.Listens.not_isIdle {s : Setup} {id : SubscriptionId} {w : Worker}
    (place : w.Listens s id) : (Thread.worker w).isIdle = false := by
  cases place <;> rfl

/-- Commands are not refused, and there is an interface of the target kind. -/
structure Serves (target : InterfaceKind) (n : SharedNetwork) : Prop where
  willing : n.network.refusal = none
  wired : target ∈ n.network.interfaces.map (·.kind)

namespace Serves

variable {target : InterfaceKind} {n m : SharedNetwork}

theorem steady (serves : Serves target n) (steady : n.Steady m) : Serves target m where
  willing := steady.refusal.trans serves.willing
  wired := steady.kinds ▸ serves.wired

/-- A command is carried out. -/
theorem perform (serves : Serves target n) (command : NetworkCommand) :
    n.perform command = (n.apply command, .ok ()) := by
  rw [SharedNetwork.perform, serves.willing]

/-- There is an interface to be picked. -/
theorem pick? (serves : Serves target n) :
    ∃ i, Probe.pick? target n.network.interfaces = some i := by
  obtain ⟨i, mem, kind⟩ := List.mem_map.mp serves.wired
  refine Option.isSome_iff_exists.mp (List.find?_isSome.mpr ⟨i, mem, ?_⟩)
  simp [kind]

end Serves

variable {s : Setup} {id : SubscriptionId} {n m : SharedNetwork} {c d : Cells}

/-! ## One turn -/

/-- Before the subscription a turn leads on, and the last one makes the subscription. -/
theorem Caller.Approaches.turn {t : Caller} (place : t.Approaches s) (new : n.Unissued id)
    (serves : Serves cfg.target n) {reply : (t.request cfg).Reply}
    (answer : n.answer? (t.request cfg) reply = some m) :
    ((t.step cfg c reply).next.Approaches s ∧ m.Unissued id) ∨
      ((t.step cfg c reply).next.Prepares s id ∧ m.Hears id) := by
  cases place with
  | readGeneration =>
    cases answer
    exact .inl ⟨.start c.generation, new⟩
  | start g =>
    cases answer
    exact .inl ⟨.find g, new⟩
  | find g =>
    cases reply with
    | error cause => cases answer
    | ok interfaces =>
      obtain ⟨rfl, same⟩ := Option.ite_none_right_eq_some.mp answer
      cases same
      obtain ⟨i, picked⟩ := serves.pick?
      simp only [step, stepFind, picked]
      exact .inl ⟨.subscribe g i.name, new⟩
  | subscribe g interface =>
    cases reply with
    | error cause => cases answer
    | ok given =>
      obtain ⟨rfl, same⟩ := Option.ite_none_right_eq_some.mp answer
      cases same
      have hears := SharedNetwork.hears_subscribe new
      obtain ⟨rfl, -⟩ := new
      exact .inr ⟨.keepSubscription g interface, hears⟩

/-- What a turn after the subscription leads to. -/
inductive Caller.Prepared (s : Setup) (id : SubscriptionId) (next : Caller) (started : Option Worker) :
    Prop
  | goesOn (place : next.Prepares s id) (alone : started = none)
  | started {w : Worker} (returned : next = .returned .accepted) (heir : started = some w)
      (place : w.Listens s id)
  | failed (cause : ErrorChain) (stops : next = .conclude s (.failed (.starting cause)) .release)
      (alone : started = none)

/-- After the subscription a turn leads on, since commands are carried out; the last one starts a
worker, if it can be started. -/
theorem Caller.Prepares.turn {t : Caller} (place : t.Prepares s id) (hears : n.Hears id)
    (serves : Serves cfg.target n) {reply : (t.request cfg).Reply}
    (answer : n.answer? (t.request cfg) reply = some m) :
    Prepared s id (t.step cfg c reply).next (Thread.started? cfg (.caller t) reply) ∧
      m.Hears id := by
  have performed {command : NetworkCommand} {reply : Except ErrorChain Unit}
      (answer : n.answer? (.command command) reply = some m) : reply = .ok () ∧ m.Hears id := by
    cases reply with
    | error cause =>
      simp only [SharedNetwork.answer?, serves.perform] at answer
      cases answer
    | ok _ =>
      simp only [SharedNetwork.answer?, serves.perform] at answer
      cases answer
      exact ⟨rfl, (n.keeps_apply command).hears hears⟩
  cases place with
  | keepSubscription g interface =>
    cases answer
    exact ⟨.goesOn (.assign g interface) rfl, hears⟩
  | assign g interface =>
    obtain ⟨rfl, hears⟩ := performed answer
    exact ⟨.goesOn (.setServers g interface) rfl, hears⟩
  | setServers g interface =>
    obtain ⟨rfl, hears⟩ := performed answer
    exact ⟨.goesOn (.keepConfiguration g) rfl, hears⟩
  | keepConfiguration g =>
    cases answer
    exact ⟨.goesOn (.settle g) rfl, hears⟩
  | settle g =>
    cases answer
    exact ⟨.goesOn (.startWorker g) rfl, hears⟩
  | startWorker g =>
    cases answer
    cases reply with
    | error cause => exact ⟨.failed cause rfl rfl, hears⟩
    | ok _ => exact ⟨.started rfl rfl (.look rfl rfl), hears⟩

/-- A turn in the wait of a worker leaves it waiting or satisfies it: its look is answered, and its
subscription does not end. -/
theorem Worker.Listens.turn {w : Worker} (place : w.Listens s id) (hears : n.Hears id)
    (holds : (Thread.worker w).Holds c) {reply : (w.request cfg).Reply}
    (answer : n.answer? (w.request cfg) reply = some m) :
    Fits s id m d (.worker (w.step cfg c reply).next) := by
  cases place with
  | @look j channel desired =>
    cases reply with
    | error cause => cases answer
    | ok interfaces =>
      obtain ⟨-, same⟩ := Option.ite_none_right_eq_some.mp answer
      cases same
      simp only [step, stepLook]
      split
      · exact .satisfied rfl
      · exact .listens (.receive channel desired) hears
  | @receive j channel desired =>
    cases reply with
    | change change =>
      simp only [SharedNetwork.answer?] at answer
      split at answer
      · rename_i network oldest taken
        obtain ⟨-, same⟩ := Option.ite_none_right_eq_some.mp answer
        cases same
        simp only [step, stepReceive]
        split
        · exact .satisfied rfl
        · exact .listens (.receive channel desired) (hears.take taken)
      · cases answer
    | timeout =>
      cases answer
      exact .listens (.checkTimeout channel desired) hears
    | closed =>
      obtain ⟨⟨closed, -⟩, -⟩ := Option.ite_none_right_eq_some.mp answer
      obtain ⟨l, found, live⟩ := hears
      simp [SharedNetwork.isClosed, channel, SimulatedNetwork.isClosed, found, live] at closed
  | @checkTimeout j channel desired =>
    cases answer
    simp only [step, holds.generation_eq rfl, if_true]
    exact .listens (.receive channel desired) hears

/-- A worker that is satisfied is so as long as the address stays seen. -/
theorem Worker.isSatisfied_of_seen {w : Worker}
    (seen : c.addressObserved = .set → d.addressObserved = .set) (satisfied : w.isSatisfied c = true) :
    w.isSatisfied d = true := by
  cases w with
  | ended =>
    have before : c.addressObserved = .set := by
      simpa [isSatisfied, Signal.isSet] using satisfied
    rw [isSatisfied, seen before]
    rfl
  | conclude j e stage => cases e <;> exact satisfied
  | _ => exact satisfied

/-- A satisfied worker stays satisfied: no check fails without a reset, and nobody takes the address
back. -/
theorem Worker.isSatisfied_step {w : Worker} (satisfied : w.isSatisfied c = true)
    (holds : (Thread.worker w).Holds c) (reply : (w.request cfg).Reply) :
    (w.step cfg c reply).next.isSatisfied (w.step cfg c reply).cells = true := by
  have current {j : Job} (job : w.job? = some j) : c.generation = j.generation :=
    holds.generation_eq job
  cases w with
  | look | receive | checkTimeout | checkClosed | checkFault => cases satisfied
  | checkAddress | checkClock =>
    simp only [step, current rfl, if_true]
    rfl
  | checkReady =>
    simp only [step, current rfl, if_true]
    rfl
  | release | readClock =>
    simp only [step]
    split <;> rfl
  | observe | clockPause => rfl
  | ended => cases holds.shown
  | conclude j e stage =>
    cases e with
    | ready =>
      cases stage with
      | settle =>
        -- The worker is done now, so the cells must say that the address was seen.
        obtain ⟨-, observed, -⟩ := Outlook.mk.inj (Option.some.inj holds.shown)
        show c.addressObserved.isSet = true
        rw [← observed]
        rfl
      | _ => rfl
    | _ => cases satisfied

/-- No thread changes its trade. -/
theorem Thread.isWorker_step (c : Cells) (t : Thread) (reply : (t.request cfg).Reply) :
    (t.step cfg c reply).next.isWorker = t.isWorker := by
  cases t <;> rfl

namespace Fits

variable {t : Thread}

/-- Steps of the network change nothing about who fits. -/
theorem keeps (fits : Fits s id n c t) (keeps : n.Keeps m) : Fits s id m c t := by
  cases fits with
  | approaches place new => exact .approaches place (keeps.unissued new)
  | prepares place hears => exact .prepares place (keeps.hears hears)
  | stops cause stage => exact .stops cause stage
  | listens place hears => exact .listens place (keeps.hears hears)
  | satisfied satisfied => exact .satisfied satisfied
  | bystander idle outsider => exact .bystander idle outsider

/-- A thread that is idle fits whatever the network is like, and as long as the address stays
seen. -/
theorem of_idle (fits : Fits s id n c t) (idle : t.isIdle = true)
    (seen : c.addressObserved = .set → d.addressObserved = .set) : Fits s id m d t := by
  cases fits with
  | approaches place => cases idle.symm.trans place.not_isIdle
  | prepares place => cases idle.symm.trans place.not_isIdle
  | stops => cases idle
  | listens place => cases idle.symm.trans place.not_isIdle
  | satisfied satisfied => exact .satisfied (Worker.isSatisfied_of_seen seen satisfied)
  | bystander _ outsider => exact .bystander idle outsider

/-- The turn of the thread that holds the cells: it fits where it goes on, and so does the worker
that it starts. -/
theorem turn (fits : Fits s id n c t) (serves : Serves cfg.target n) (holds : t.Holds c)
    {reply : (t.request cfg).Reply} (answer : n.answer? (t.request cfg) reply = some m) :
    Fits s id (m.release (t.step cfg c reply).unsubscribed) (t.step cfg c reply).cells
        (t.step cfg c reply).next ∧
      ∀ w, t.started? cfg reply = some w →
        Fits s id (m.release (t.step cfg c reply).unsubscribed) (t.step cfg c reply).cells
          (.worker w) := by
  have kept (still : t.releases = false) :
      m.release (t.step cfg c reply).unsubscribed = m := by
    rw [Thread.unsubscribed_step, still]
    rfl
  have nobody (alone : t.started? cfg reply = none) {P : Worker → Prop} :
      ∀ w, t.started? cfg reply = some w → P w := by
    intro w started
    cases alone.symm.trans started
  cases fits with
  | approaches place new =>
    rw [kept (by cases place <;> rfl)]
    refine ⟨?_, nobody (by cases place <;> rfl)⟩
    rcases place.turn new serves answer with ⟨place, new⟩ | ⟨place, hears⟩
    · exact .approaches place new
    · exact .prepares place hears
  | prepares place hears =>
    rw [kept (by cases place <;> rfl)]
    obtain ⟨prepared, hears⟩ := place.turn hears serves answer
    cases prepared with
    | goesOn place alone => exact ⟨.prepares place hears, nobody alone⟩
    | started returned heir place =>
      refine ⟨.bystander ?_ rfl, fun w started => ?_⟩
      · rw [Thread.step, Move.next_map, returned]
        rfl
      · cases heir.symm.trans started
        exact .listens place hears
    | failed cause stops alone =>
      refine ⟨?_, nobody alone⟩
      rw [Thread.step, Move.next_map, stops]
      exact .stops cause _
  | stops cause stage =>
    refine ⟨?_, nobody rfl⟩
    cases stage with
    | settle => exact .bystander rfl rfl
    | _ => exact .stops cause _
  | listens place hears =>
    rw [kept (by cases place <;> rfl)]
    exact ⟨place.turn hears holds answer, nobody rfl⟩
  | satisfied satisfied =>
    exact ⟨.satisfied (Worker.isSatisfied_step satisfied holds reply), nobody rfl⟩
  | bystander idle => cases idle.symm.trans holds.not_isIdle

/-- An idle thread fits where its turn leads. -/
theorem turn_of_idle (fits : Fits s id n c t) (idle : t.isIdle = true) (claimed : c.claimed = true)
    (reply : (t.request cfg).Reply) : Fits s id n c (t.step cfg c reply).next := by
  have next := (Thread.step_of_isIdle idle (.inl claimed) reply).2.1
  cases fits with
  | approaches place => cases idle.symm.trans place.not_isIdle
  | prepares place => cases idle.symm.trans place.not_isIdle
  | stops => cases idle
  | listens place => cases idle.symm.trans place.not_isIdle
  | @satisfied w satisfied =>
    cases w with
    | ended => exact .satisfied satisfied
    | _ => cases idle
  | bystander _ outsider => exact .bystander next ((t.isWorker_step c reply).trans outsider)

end Fits

/-- What an idle thread asks for leaves the network alone. -/
theorem answer?_of_isIdle {t : Thread} (idle : t.isIdle = true) {reply : (t.request cfg).Reply}
    (answer : n.answer? (t.request cfg) reply = some m) :
    m.release (t.step cfg c reply).unsubscribed = n := by
  rw [Thread.unsubscribed_step]
  rcases t with t | t | t | t
  · cases t with
    | claim | returned =>
      cases answer
      rfl
    | _ => cases idle
  · cases t with
    | ended =>
      cases answer
      rfl
    | _ => cases idle
  · cases t with
    | done =>
      cases answer
      rfl
    | _ => cases idle
  · cases t <;> cases answer <;> rfl

/-- An address that was seen stays seen, unless there is a reset. -/
theorem Thread.observed_step {t : Thread} (calm : ∀ r, t ≠ .reset r)
    (seen : c.addressObserved = .set) (reply : (t.request cfg).Reply) :
    (t.step cfg c reply).cells.addressObserved = .set := by
  rw [t.cells_step]
  rcases t with t | t | t | t
  · cases t with
    | observe => rfl
    | conclude s e stage => cases stage <;> exact seen
    | _ => exact seen
  · cases t with
    | observe => rfl
    | conclude j e stage => cases stage <;> exact seen
    | _ => exact seen
  · exact (calm t rfl).elim
  · exact seen

/-- All threads fit, and the network serves the setup. -/
structure Course (cfg : Config) (s : Setup) (id : SubscriptionId) (st : Stage) : Prop where
  phase : Phase st.system
  claimed : st.system.cells.claimed = true
  fits : ∀ (k : Nat) (t : Thread), st.system.threads[k]? = some t →
    Fits s id st.shared st.system.cells t
  serves : Serves cfg.target st.shared

namespace Course

variable {st st' : Stage} {i : Nat} {t : Thread} {reply : (t.request cfg).Reply}

/-- Whoever takes a turn is idle, or holds the cells while all others are idle. -/
theorem idle_or_holds (course : Course cfg s id st) (present : st.system.threads[i]? = some t) :
    t.isIdle = true ∨ (t.Holds st.system.cells ∧
      ∀ j u, j ≠ i → st.system.threads[j]? = some u → u.isIdle = true) := by
  cases idle : t.isIdle with
  | true => exact .inl rfl
  | false => exact .inr (course.phase.holds present idle)

/-- A turn takes back neither the claim nor an address that was seen. -/
theorem seen (course : Course cfg s id st) (present : st.system.threads[i]? = some t)
    (reply : (t.request cfg).Reply) :
    (t.step cfg st.system.cells reply).cells.claimed = true ∧
      (st.system.cells.addressObserved = .set →
        (t.step cfg st.system.cells reply).cells.addressObserved = .set) := by
  rcases course.idle_or_holds present with idle | ⟨holds, -⟩
  · rw [(Thread.step_of_isIdle idle (.inl course.claimed) reply).1]
    exact ⟨course.claimed, fun seen => seen⟩
  · refine ⟨?_, fun seen => Thread.observed_step ?_ seen reply⟩
    · cases holds.step reply with
      | goesOn holds => exact holds.claimed
      | leaves _ _ _ holds => exact holds.claimed
      | closes _ _ _ closed => exact closed.claimed
    · rintro r rfl
      cases holds.shown

/-- A turn keeps the course. -/
theorem turn (course : Course cfg s id st) (present : st.system.threads[i]? = some t)
    (answer : st.shared.answer? (t.request cfg) reply = some m) :
    Course cfg s id ⟨st.system.advance cfg i t reply,
      m.release (t.step cfg st.system.cells reply).unsubscribed⟩ where
  phase := course.phase.turn present reply
  claimed := (course.seen present reply).1
  serves := (course.serves.steady (SharedNetwork.answered answer).steady).steady
    (m.steady_release _)
  fits k u found := by
    have fits := course.fits i t present
    rw [System.cells_advance]
    rcases course.idle_or_holds present with idle | ⟨holds, others⟩
    · obtain ⟨cells, next, alone⟩ := Thread.step_of_isIdle idle (.inl course.claimed) reply
      rw [answer?_of_isIdle idle answer, cells]
      rcases System.getElem?_advance found with ⟨-, rfl⟩ | ⟨-, old⟩ | ⟨-, w, started, -⟩
      · exact fits.turn_of_idle idle course.claimed reply
      · exact course.fits k u old
      · cases alone.symm.trans started
    · obtain ⟨self, heir⟩ := fits.turn course.serves holds answer
      rcases System.getElem?_advance found with ⟨-, rfl⟩ | ⟨other, old⟩ | ⟨-, w, started, rfl⟩
      · exact self
      · exact (course.fits k u old).of_idle (others k u other old) (course.seen present reply).2
      · exact heir w started

/-- Every calm event keeps the course. -/
theorem after? {e : Happening cfg} (course : Course cfg s id st) (calm : e.isReset = false)
    (after : st.after? e = some st') : Course cfg s id st' := by
  rcases Stage.after?_cases after with
    ⟨i, t, reply, m, rfl, present, answer, rfl⟩ | ⟨newcomer, rfl, rfl⟩ | ⟨system, keeps⟩
  · exact course.turn present answer
  · have harmless : newcomer ≠ .reset := by
      rintro rfl
      cases calm
    refine ⟨course.phase.join harmless, course.claimed, fun k t found => ?_, course.serves⟩
    rcases System.getElem?_join found with old | ⟨-, rfl⟩
    · exact course.fits k t old
    · exact .bystander (newcomer.isIdle_thread harmless) (by cases newcomer <;> rfl)
  · refine ⟨system ▸ course.phase, system ▸ course.claimed, fun k t found => ?_,
      course.serves.steady keeps.toSteady⟩
    rw [system] at found ⊢
    exact (course.fits k t found).keeps keeps

end Course

end Uplink.Readiness
