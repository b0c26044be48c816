import Uplink.Proofs.Readiness.Course
import Uplink.Proofs.Readiness.Polling
import Uplink.Proofs.Readiness.Waiting

/-!
# No address is missed

A setup with events looks at the interfaces once and relies on address changes otherwise. It misses
no address all the same, because it subscribes before it configures the interface and looks only
after that: a change that is written after the subscription is owed to it until it takes the change,
whatever else is written before or after, and whether the address stays or not. A change that is
owed is lost to nobody but the worker, and the worker who takes it is done waiting.

## Main definitions

- `Stage.shows`: an address that the setup waits for is written after its subscription, or is there
  at its worker's look.
- `Due`: the worker will be satisfied, or there will be none.
- `Headway`: how far the caller has come.

## Main results

- `Course.due_of_shows`, `Due.after?`: an address that is shown is due, and remains so.
- `no_lost_wakeup`: a worker is satisfied once it has taken all changes, and none ever fails.
-/

namespace Uplink.Readiness

variable {cfg : Config} {s : Setup} {id : SubscriptionId} {n m : SharedNetwork} {c d : Cells}

/-! ## What comes of an address -/

/-- Whether a write gives an interface of the target kind an address that the setup waits for, when
its subscription was made. -/
def Stage.tells (target : InterfaceKind) (s : Setup) (id : SubscriptionId) (st : Stage)
    (name : String) (a : Address) : Bool :=
  (st.shared.network.listener? id).isSome &&
    (st.shared.network.find? name).any (fun i => i.kind == target) && s.wants a

/-- Whether an address that the setup waits for is shown: it is written when the subscription was
made, or it is there at a worker's look. -/
def Stage.shows (s : Setup) (id : SubscriptionId) (st : Stage) : Happening cfg → Bool
  | .setAddress name a => st.tells cfg.target s id name a
  | .write k => st.shared.underway[k]?.any fun (name, a) => st.tells cfg.target s id name a
  | .step (.turn _ (.worker (.look _)) _) => s.findsIn cfg st.shared.network.interfaces
  | _ => false

/-- Whether a thread never starts a worker, now that a setup was admitted. -/
def Thread.isBarren : Thread → Bool
  | caller (.claim _) | caller (.conclude ..) | caller (.returned _) => true
  | caller _ | worker _ => false
  | reset t => t == .done
  | watcher _ => true

/-- What there is to come of an address that was shown: the worker is owed a change that satisfies
it, or one is satisfied, or there is none and will be none. -/
inductive Due (cfg : Config) (s : Setup) (id : SubscriptionId) (st : Stage) : Prop
  | owed {ch : AddressChange} (wanted : (Caller.probe cfg s).isMatch ch = true)
      (owes : st.shared.Owes id ch)
  | reached {k : Nat} {w : Worker} (present : st.system.threads[k]? = some (.worker w))
      (satisfied : w.isSatisfied st.system.cells = true)
  | forsaken (barren : ∀ t ∈ st.system.threads, t.isBarren = true)

/-- What is shown is a change that the worker waits for. -/
theorem Stage.exists_news_of_tells {st : Stage} {name : String} {a : Address}
    (told : st.tells cfg.target s id name a = true) :
    ∃ ch, st.shared.news? name a = some ch ∧ (Caller.probe cfg s).isMatch ch = true := by
  simp only [tells, Bool.and_eq_true, Option.any_eq_true] at told
  obtain ⟨⟨-, i, found, kind⟩, wanted⟩ := told
  refine ⟨{ i with ipv4 := a }.change, ?_, ?_⟩
  · simp only [SharedNetwork.news?, SimulatedNetwork.write, found, Option.map_some]
  · rw [Probe.isMatch, Bool.and_eq_true]
    exact ⟨kind, (Setup.accepts_probe cfg s a).trans wanted⟩

/-- Whoever is barren stays so and starts nobody. -/
theorem Thread.isBarren_step {t : Thread} (barren : t.isBarren = true) (claimed : c.claimed = true)
    (reply : (t.request cfg).Reply) :
    (t.step cfg c reply).next.isBarren = true ∧ t.started? cfg reply = none := by
  rcases t with t | t | t | t
  · cases t with
    | claim setup => simp [step, Caller.step, Caller.stepClaim, claimed, isBarren, started?]
    | conclude setup e stage =>
      refine ⟨?_, rfl⟩
      cases stage with
      | release => cases e <;> rfl
      | _ => rfl
    | returned v => exact ⟨rfl, rfl⟩
    | _ => cases barren
  · cases barren
  · cases t with
    | done => exact ⟨rfl, rfl⟩
    | _ => cases barren
  · exact ⟨rfl, rfl⟩

/-- Only a worker that waits for changes takes them. -/
theorem Thread.exists_receive {t : Thread} {limit : Duration}
    (asks : t.request cfg = .receive id limit) :
    ∃ j : Job, t = .worker (.receive j) ∧ j.channel = id := by
  rcases t with t | t | t | t
  · cases t <;> cases asks
  · cases t with
    | receive j =>
      cases asks
      exact ⟨j, rfl, rfl⟩
    | _ => cases asks
  · cases asks
  · cases t <;> cases asks

/-- What a worker waits for is what its setup waits for. -/
theorem Worker.probe_eq (cfg : Config) {j : Job} (desired : j.desired = s.desired) :
    Worker.probe cfg j = Caller.probe cfg s := by
  rw [probe, desired, Caller.probe]

/-- Whoever takes a change that is wanted is the worker of the setup, and it is satisfied then. -/
theorem Fits.satisfied_of_taken {t : Thread} {reply : (t.request cfg).Reply} {ch : AddressChange}
    {limit : Duration} (fits : Fits s id n c t) (wanted : (Caller.probe cfg s).isMatch ch = true)
    (asks : t.request cfg = .receive id limit) (taken : HEq reply (Reception.change ch)) :
    ∃ w, (t.step cfg c reply).next = .worker w ∧
      w.isSatisfied (t.step cfg c reply).cells = true := by
  obtain ⟨j, rfl, -⟩ := Thread.exists_receive asks
  cases taken
  cases fits with
  | listens place =>
    cases place with
    | receive channel desired =>
      refine ⟨.checkAddress j, ?_, rfl⟩
      simp [Thread.step, Worker.step, Worker.stepReceive, Worker.probe_eq cfg desired, wanted]
  | satisfied satisfied => cases satisfied
  | bystander _ outsider => cases outsider

/-- The turn that shows an address is a worker's look. -/
theorem Stage.exists_look_of_shows {st : Stage} {i : Nat} {t : Thread}
    {reply : (t.request cfg).Reply} (shown : st.shows s id (.step (.turn i t reply)) = true) :
    ∃ j : Job, t = .worker (.look j) ∧ s.findsIn cfg st.shared.network.interfaces = true := by
  rcases t with t | t | t | t
  · cases shown
  · cases t with
    | look j => exact ⟨j, rfl, shown⟩
    | _ => cases shown
  · cases shown
  · cases shown

/-- Whoever looks at interfaces among which there is the address is satisfied then. -/
theorem Fits.satisfied_of_look {j : Job} {reply : ((Worker.look j).request cfg).Reply}
    (fits : Fits s id n c (.worker (.look j)))
    (found : s.findsIn cfg n.network.interfaces = true)
    (answer : n.answer? ((Worker.look j).request cfg) reply = some m) :
    ∃ w, (Thread.step cfg c (.worker (.look j)) reply).next = .worker w ∧
      w.isSatisfied (Thread.step cfg c (.worker (.look j)) reply).cells = true := by
  cases reply with
  | error cause => cases answer
  | ok interfaces =>
    obtain ⟨rfl, -⟩ := Option.ite_none_right_eq_some.mp answer
    cases fits with
    | listens place =>
      cases place with
      | look channel desired =>
        have satisfied := (Setup.satisfiedBy_probe cfg s n.network.interfaces).trans found
        refine ⟨.checkAddress j, ?_, rfl⟩
        simp [Thread.step, Worker.step, Worker.stepLook, Worker.probe_eq cfg desired, satisfied]
    | satisfied satisfied => cases satisfied
    | bystander _ outsider => cases outsider

namespace Due

variable {st st' : Stage} {i : Nat} {t : Thread} {reply : (t.request cfg).Reply}

/-- A turn leaves what is due. -/
theorem turn (due : Due cfg s id st) (course : Course cfg s id st)
    (present : st.system.threads[i]? = some t)
    (answer : st.shared.answer? (t.request cfg) reply = some m) :
    Due cfg s id ⟨st.system.advance cfg i t reply,
      m.release (t.step cfg st.system.cells reply).unsubscribed⟩ := by
  cases due with
  | owed wanted owes =>
    rcases (SharedNetwork.answered answer).owes owes with still | ⟨limit, asks, taken⟩
    · exact .owed wanted (SharedNetwork.owes_release still _)
    · obtain ⟨w, next, satisfied⟩ :=
        (course.fits i t present).satisfied_of_taken wanted asks taken
      refine .reached (k := i) (w := w) ?_ satisfied
      exact (System.getElem?_advance_self present).trans (congrArg some next)
  | @reached k w there satisfied =>
    by_cases same : k = i
    · subst same
      cases there.symm.trans present
      rcases course.idle_or_holds present with idle | ⟨holds, -⟩
      · cases w with
        | ended => exact .reached (System.getElem?_advance_self present) satisfied
        | _ => cases idle
      · exact .reached (System.getElem?_advance_self present)
          (Worker.isSatisfied_step satisfied holds reply)
    · exact .reached (System.getElem?_advance_of_ne there same)
        (Worker.isSatisfied_of_seen (course.seen present reply).2 satisfied)
  | forsaken barren =>
    obtain ⟨next, alone⟩ :=
      Thread.isBarren_step (barren t (List.mem_of_getElem? present)) course.claimed reply
    refine .forsaken fun u mem => ?_
    obtain ⟨k, found⟩ := List.mem_iff_getElem?.mp mem
    rcases System.getElem?_advance found with ⟨-, rfl⟩ | ⟨-, old⟩ | ⟨-, w, started, -⟩
    · exact next
    · exact barren u (List.mem_of_getElem? old)
    · cases alone.symm.trans started

/-- Every calm event leaves what is due. -/
theorem after? {e : Happening cfg} (due : Due cfg s id st) (course : Course cfg s id st)
    (calm : e.isReset = false) (after : st.after? e = some st') : Due cfg s id st' := by
  rcases Stage.after?_cases after with
    ⟨i, t, reply, m, rfl, present, answer, rfl⟩ | ⟨newcomer, rfl, rfl⟩ | ⟨system, keeps⟩
  · exact due.turn course present answer
  · cases due with
    | owed wanted owes => exact .owed wanted owes
    | reached there satisfied => exact .reached (System.getElem?_join_of_some there) satisfied
    | forsaken barren =>
      refine .forsaken (forall_mem_concat barren ?_)
      cases newcomer with
      | reset => cases calm
      | _ => rfl
  · cases due with
    | owed wanted owes => exact .owed wanted (keeps.owes _ _ owes)
    | reached there satisfied =>
      rw [← system] at there satisfied
      exact .reached there satisfied
    | forsaken barren =>
      rw [← system] at barren
      exact .forsaken barren

end Due

namespace Course

variable {st st' : Stage} {e : Happening cfg}

/-- Once the subscription was made, it hears writes, unless nothing depends on it any more. -/
theorem hears_or_due (course : Course cfg s id st)
    (made : (st.shared.network.listener? id).isSome = true) :
    st.shared.Hears id ∨ Due cfg s id st := by
  by_cases hears : st.shared.Hears id
  · exact .inl hears
  by_cases done : ∃ (k : Nat) (w : Worker),
      st.system.threads[k]? = some (.worker w) ∧ w.isSatisfied st.system.cells = true
  · obtain ⟨k, w, present, satisfied⟩ := done
    exact .inr (.reached present satisfied)
  -- Whoever is left has concluded or is idle, and there is no worker.
  refine .inr (.forsaken fun t mem => ?_)
  obtain ⟨k, present⟩ := List.mem_iff_getElem?.mp mem
  cases course.fits k t present with
  | approaches _ new =>
    rw [new.unused] at made
    cases made
  | prepares _ heard => exact (hears heard).elim
  | stops => rfl
  | listens _ heard => exact (hears heard).elim
  | satisfied satisfied => exact (done ⟨k, _, present, satisfied⟩).elim
  | bystander idle outsider =>
    rcases t with t | t | t | t
    · cases t with
      | claim | returned => rfl
      | _ => cases idle
    · cases outsider
    · exact idle
    · rfl

/-- An address that is shown is owed to the worker, or it is seen at once. -/
theorem due_of_shows (course : Course cfg s id st) (shown : st.shows s id e = true)
    (after : st.after? e = some st') : Due cfg s id st' := by
  have owed (shared : SharedNetwork) {name : String} {a : Address}
      (told : st.tells cfg.target s id name a = true)
      (calm : e.isReset = false) (same : shared.network = st.shared.network)
      (leads : st' = ⟨st.system, shared.write name a⟩) : Due cfg s id st' := by
    obtain ⟨ch, news, wanted⟩ := Stage.exists_news_of_tells told
    simp only [Stage.tells, Bool.and_eq_true] at told
    rcases course.hears_or_due told.1.1 with ⟨l, found, live⟩ | due
    · have hears : shared.Hears id := ⟨l, same ▸ found, live⟩
      rw [SharedNetwork.news?, ← same] at news
      rw [leads]
      exact .owed wanted (SharedNetwork.owes_write hears news)
    · exact due.after? course calm after
  cases e with
  | setAddress name a =>
    cases after
    exact owed st.shared shown rfl rfl rfl
  | write k =>
    obtain ⟨⟨name, a⟩, there, told⟩ := (Option.any_eq_true _ _).mp shown
    cases after
    refine owed { st.shared with underway := st.shared.underway.eraseIdx k } told rfl rfl ?_
    rw [SharedNetwork.writeUnderway, there]
  | step e =>
    cases e with
    | enter newcomer => cases shown
    | turn i t reply =>
      obtain ⟨present, m, answer, rfl⟩ := Stage.after?_turn_eq_some.mp after
      obtain ⟨j, rfl, found⟩ := Stage.exists_look_of_shows shown
      obtain ⟨w, next, satisfied⟩ := (course.fits i _ present).satisfied_of_look found answer
      refine .reached (k := i) (w := w) ?_ satisfied
      exact (System.getElem?_advance_self present).trans (congrArg some next)
  | letThrough => cases shown
  | call k => cases shown

/-- While a worker waits, no worker is satisfied. -/
theorem unsatisfied (course : Course cfg s id st) {k l : Nat} {w u : Worker}
    (present : st.system.threads[k]? = some (.worker w)) (place : w.Listens s id)
    (there : st.system.threads[l]? = some (.worker u)) :
    ¬ u.isSatisfied st.system.cells = true := by
  intro satisfied
  obtain ⟨holds, others⟩ := course.phase.holds present place.not_isIdle
  by_cases same : l = k
  · subst same
    cases there.symm.trans present
    cases place <;> cases satisfied
  · -- The other one is done, and the cells would have to say that the address was seen.
    have idle := others l _ same there
    have shown := holds.shown
    cases u with
    | ended =>
      have unseen : st.system.cells.addressObserved = .pending := by
        cases place <;> exact (congrArg Outlook.addressObserved (Option.some.inj shown)).symm
      rw [Worker.isSatisfied, unseen] at satisfied
      cases satisfied
    | _ => cases idle

end Course

/-! ## Where the setup leads -/

/-- How far a setup has come whose caller is the `i`-th thread: the caller is on its way, or it has
left the rest to a worker, or no worker could be started, and the cells say so. -/
inductive Headway (i : Nat) (s : System) : Prop
  | calls {t : Caller} (present : s.threads[i]? = some (.caller t))
      (busy : (Thread.caller t).isIdle = false)
  | works {k : Nat} {w : Worker} (returned : s.threads[i]? = some (.caller (.returned .accepted)))
      (present : s.threads[k]? = some (.worker w))
  | stopped {cause : ErrorChain}
      (returned : s.threads[i]? = some (.caller (.returned .accepted)))
      (status : s.cells.status = .faulted) (fault : s.cells.fault = some (.starting cause))

namespace Headway

variable {st st' : Stage} {i : Nat}

/-- A turn of the caller itself. -/
theorem own {t : Caller} {reply : (t.request cfg).Reply} (course : Course cfg s id st)
    (events : s.mode = .events) (present : st.system.threads[i]? = some (.caller t))
    (busy : (Thread.caller t).isIdle = false)
    (answer : st.shared.answer? (t.request cfg) reply = some m) :
    Headway i (st.system.advance cfg i (.caller t) reply) := by
  have there : (st.system.advance cfg i (.caller t) reply).threads[i]? = _ :=
    System.getElem?_advance_self present
  have goesOn {next : Caller} (leads : (t.step cfg st.system.cells reply).next = next)
      (busy : (Thread.caller next).isIdle = false) :
      Headway i (st.system.advance cfg i (.caller t) reply) :=
    .calls (there.trans (congrArg (fun next => some (Thread.caller next)) leads)) busy
  have holds := (course.phase.holds present busy).1
  cases course.fits i _ present with
  | approaches place new =>
    rcases place.turn new course.serves answer with ⟨place, -⟩ | ⟨place, -⟩
    · exact goesOn rfl place.not_isIdle
    · exact goesOn rfl place.not_isIdle
  | prepares place hears =>
    obtain ⟨prepared, -⟩ := place.turn hears course.serves answer
    cases prepared with
    | goesOn place => exact goesOn rfl place.not_isIdle
    | started returned heir =>
      exact .works (there.trans (congrArg (fun next => some (Thread.caller next)) returned))
        (System.getElem?_advance_started heir)
    | failed cause stops => exact goesOn stops rfl
  | stops cause stage =>
    cases stage with
    | settle =>
      -- Its last write settles the signal only, so the cells say already why it ended.
      obtain ⟨status, -, fault⟩ := Outlook.mk.inj (Option.some.inj holds.shown)
      refine .stopped (there.trans ?_) status.symm fault.symm
      simp only [Thread.step, Move.next_map, Caller.step, Ending.step, Ending.verdict, events]
    | _ => exact goesOn rfl rfl
  | bystander idle => cases idle.symm.trans busy

/-- A worker that is there stays there. -/
theorem exists_worker_advance {st : System} {j k : Nat} {t : Thread} {w : Worker}
    {reply : (t.request cfg).Reply} (present : st.threads[j]? = some t)
    (there : st.threads[k]? = some (.worker w)) :
    ∃ w', (st.advance cfg j t reply).threads[k]? = some (.worker w') := by
  by_cases same : k = j
  · subst same
    cases there.symm.trans present
    exact ⟨_, System.getElem?_advance_self present⟩
  · exact ⟨w, System.getElem?_advance_of_ne there same⟩

/-- Whoever has returned stays where it is. -/
theorem returned_advance {st : System} {j : Nat} {t : Thread} {v : Verdict}
    {reply : (t.request cfg).Reply} (present : st.threads[j]? = some t)
    (there : st.threads[i]? = some (.caller (.returned v))) :
    (st.advance cfg j t reply).threads[i]? = some (.caller (.returned v)) := by
  by_cases same : i = j
  · subst same
    cases there.symm.trans present
    exact System.getElem?_advance_self present
  · exact System.getElem?_advance_of_ne there same

/-- Every turn leads on. -/
theorem turn {j : Nat} {t : Thread} {reply : (t.request cfg).Reply}
    (headway : Headway i st.system) (course : Course cfg s id st) (events : s.mode = .events)
    (present : st.system.threads[j]? = some t)
    (answer : st.shared.answer? (t.request cfg) reply = some m) :
    Headway i (st.system.advance cfg j t reply) := by
  cases headway with
  | calls there busy =>
    by_cases same : i = j
    · subst same
      cases there.symm.trans present
      exact own course events present busy answer
    · exact .calls (System.getElem?_advance_of_ne there same) busy
  | works returned there =>
    obtain ⟨w, there⟩ := exists_worker_advance present there
    exact .works (returned_advance present returned) there
  | stopped returned status fault =>
    have same := course.phase.sameOutcome_after? (e := .turn j t reply) (status ▸ rfl) rfl
      (System.after?_turn_eq_some.mpr ⟨present, rfl⟩)
    exact .stopped (returned_advance present returned) (same.status.trans status)
      (same.fault.trans fault)

/-- Every calm event leads on. -/
theorem after? {e : Happening cfg} (headway : Headway i st.system) (course : Course cfg s id st)
    (events : s.mode = .events) (calm : e.isReset = false) (after : st.after? e = some st') :
    Headway i st'.system := by
  rcases Stage.after?_cases after with
    ⟨j, t, reply, m, rfl, present, answer, rfl⟩ | ⟨newcomer, -, rfl⟩ | ⟨system, -⟩
  · exact headway.turn course events present answer
  · cases headway with
    | calls there busy => exact .calls (System.getElem?_join_of_some there) busy
    | works returned there =>
      exact .works (System.getElem?_join_of_some returned) (System.getElem?_join_of_some there)
    | stopped returned status fault =>
      exact .stopped (System.getElem?_join_of_some returned) status fault
  · exact system ▸ headway

end Headway

/-- A setup with events that is about to be admitted, on a network that serves it. -/
structure Opening (cfg : Config) (s : Setup) (i : Nat) (st : Stage) : Prop where
  unclaimed : st.system.Unclaimed
  /-- No worker is left from before. -/
  workless : ∀ t ∈ st.system.threads, t.isWorker = false
  events : s.mode = .events
  present : st.system.threads[i]? = some (.caller (.claim s))
  serves : Serves cfg.target st.shared
  /-- The number of the next subscription was not given out before. -/
  unused : st.shared.network.listener? ⟨st.shared.network.nextId⟩ = none

/-- Its subscription, once it is made. -/
abbrev Stage.upcoming (st : Stage) : SubscriptionId := ⟨st.shared.network.nextId⟩

/-- A happening is noted down if it shows an address that the setup waits for. -/
def Stage.showing (s : Setup) (id : SubscriptionId) (st : Stage) (e : Happening cfg) :
    Option (Happening cfg) :=
  if st.shows s id e then some e else none

/-- The happenings during a run that show such an address. -/
abbrev Stage.shown (s : Setup) (id : SubscriptionId) (st : Stage) (es : List (Happening cfg)) :
    List (Happening cfg) :=
  notedFrom Stage.after? (Stage.showing s id) st es

/-- What is true of a setup with events all along, and of what has shown an address so far. -/
structure Keeping (cfg : Config) (s : Setup) (id : SubscriptionId) (i : Nat) (st : Stage)
    (shown : List (Happening cfg)) : Prop where
  course : Course cfg s id st
  headway : Headway i st.system
  due : shown ≠ [] → Due cfg s id st

/-- Every calm event keeps it. -/
theorem Keeping.after? {st st' : Stage} {i : Nat} {e : Happening cfg} {shown : List (Happening cfg)}
    (keeping : Keeping cfg s id i st shown) (events : s.mode = .events) (calm : e.isReset = false)
    (after : st.after? e = some st') :
    Keeping cfg s id i st' (shown ++ (st.showing s id e).toList) where
  course := keeping.course.after? calm after
  headway := keeping.headway.after? keeping.course events calm after
  due nonempty := by
    cases now : st.shows s id e with
    | true => exact keeping.course.due_of_shows now after
    | false =>
      have before : shown ≠ [] := by simpa [Stage.showing, now] using nonempty
      exact (keeping.due before).after? keeping.course calm after

namespace Opening

variable {st : Stage} {i : Nat}

/-- The first turn of the caller leads to the reading of the count. -/
theorem getElem?_admitted (opening : Opening cfg s i st) :
    (st.system.advance cfg i (.caller (.claim s)) ()).threads[i]? =
      some (.caller (.readGeneration s)) := by
  rw [System.getElem?_advance_self opening.present]
  simp [Thread.step, Caller.step, Caller.stepClaim, opening.unclaimed.untouched.free,
    opening.events]

/-- Once it is admitted, all threads fit. -/
theorem course (opening : Opening cfg s i st) :
    Course cfg s st.upcoming ⟨st.system.advance cfg i (.caller (.claim s)) (), st.shared⟩ where
  phase := .turn_of_claim opening.present opening.unclaimed.untouched opening.unclaimed.idle ()
  claimed := by
    simp [Thread.step, Caller.step, Caller.stepClaim, opening.unclaimed.untouched.free]
  serves := opening.serves
  fits k t found := by
    by_cases same : k = i
    · subst same
      cases found.symm.trans opening.getElem?_admitted
      exact .approaches .readGeneration ⟨rfl, opening.unused⟩
    · rcases System.getElem?_advance found with ⟨self, -⟩ | ⟨-, old⟩ | ⟨-, w, started, -⟩
      · exact (same self).elim
      · have mem := List.mem_of_getElem? old
        exact .bystander (opening.unclaimed.idle t mem) (opening.workless t mem)
      · cases started

/-- The turn at which it is admitted. -/
theorem after?_claim (opening : Opening cfg s i st) :
    st.after? (.step (.turn i (.caller (.claim s)) () : Event cfg)) =
      some ⟨st.system.advance cfg i (.caller (.claim s)) (), st.shared⟩ := by
  refine Stage.after?_turn_eq_some.mpr ⟨opening.present, st.shared, rfl, ?_⟩
  rw [Thread.unsubscribed_step]
  rfl

/-- That turn shows nothing, and a caller is on its way then. -/
theorem keeping (opening : Opening cfg s i st) :
    Keeping cfg s st.upcoming i
      ⟨st.system.advance cfg i (.caller (.claim s)) (), st.shared⟩ [] where
  course := opening.course
  headway := .calls opening.getElem?_admitted rfl
  due nonempty := (nonempty rfl).elim

end Opening

/-- No address is missed by a setup with events, in whatever order its threads, the writes to the
network and the calls to listeners go on. When its caller comes back, it has left the rest to a
worker, or the cells say that no worker could be started. No wait of a worker ever fails or is
cancelled. And once an address was shown after the subscription, or at the worker's look, the worker
is satisfied as soon as all calls to it were made and it has taken all changes. -/
theorem no_lost_wakeup {i : Nat} {start last : Stage} {es : List (Happening cfg)}
    (opening : Opening cfg s i start) (calm : ∀ e ∈ es, e.isReset = false)
    (run : start.run? (.step (.turn i (.caller (.claim s)) ()) :: es) = some last) :
    (∀ v, last.system.threads[i]? = some (.caller (.returned v)) →
      v = .accepted ∧
        ((∃ (k : Nat) (w : Worker), last.system.threads[k]? = some (.worker w)) ∨
          last.system.cells.status = .faulted ∧
            ∃ cause, last.system.cells.fault = some (.starting cause))) ∧
    ∀ (k : Nat) (w : Worker), last.system.threads[k]? = some (.worker w) →
      (w.isWaiting = true ∨ w.isSatisfied last.system.cells = true) ∧
        (start.shown s start.upcoming (.step (.turn i (.caller (.claim s)) ()) :: es) ≠ [] →
          last.shared.Drained start.upcoming → w.isSatisfied last.system.cells = true) := by
  obtain ⟨first, after, rest⟩ := runFrom?_cons_eq_some.mp run
  obtain rfl := Option.some.inj (opening.after?_claim.symm.trans after)
  rw [Stage.shown, notedFrom_cons after]
  have keeping := runFrom?_preserves_noted (fun e : Happening cfg => e.isReset = false)
    (Keeping cfg s start.upcoming i)
    (fun keeping calm after => keeping.after? opening.events calm after) rest calm opening.keeping
  generalize notedFrom Stage.after? _ _ es = shown at keeping ⊢
  obtain ⟨course, headway, due⟩ := keeping
  refine ⟨fun v returned => ?_, fun k w present => ?_⟩
  · cases headway with
    | calls there busy =>
      cases there.symm.trans returned
      cases busy
    | works there worker =>
      cases there.symm.trans returned
      exact ⟨rfl, .inl ⟨_, _, worker⟩⟩
    | stopped there status fault =>
      cases there.symm.trans returned
      exact ⟨rfl, .inr ⟨status, _, fault⟩⟩
  · cases course.fits k _ present with
    | satisfied satisfied => exact ⟨.inr satisfied, fun _ _ => satisfied⟩
    | bystander _ outsider => cases outsider
    | listens place hears =>
      refine ⟨.inl (by cases place <;> rfl), fun nonempty drained => ?_⟩
      cases due nonempty with
      | owed _ owes => exact (drained.not_owes owes).elim
      | reached there satisfied =>
        exact (course.unsatisfied present place there satisfied).elim
      | forsaken barren => cases barren _ (List.mem_of_getElem? present)

/-- An Ethernet interface that is to be set up, and a wireless one. -/
def twoInterfaces : List Interface := [⟨"eth0", .ethernet, .any, false⟩, ⟨"wlan0", .wifi, .any, true⟩]

/-- A setup with DHCP in which the lease is written and lost again before the worker looks, the calls
are made late and in another order, and one of them is about another interface. -/
def leaseLostAgain : List (Happening {}) :=
  [.step (.turn 0 (.caller (.claim subscribed)) ()),
    .step (.turn 0 (.caller (.readGeneration subscribed)) ()),
    .step (.turn 0 (.caller (.start subscribed (.events 0))) ()),
    .step (.turn 0 (.caller (.find subscribed (.events 0))) (.ok twoInterfaces)),
    .step (.turn 0 (.caller (.subscribe subscribed 0 "eth0")) (.ok ⟨0⟩)),
    .setAddress "wlan0" .loopback,
    .step (.turn 0 (.caller (.keepSubscription subscribed 0 "eth0" ⟨0⟩)) ()),
    .step (.turn 0 (.caller (.assign subscribed (.events 0 ⟨0⟩) "eth0")) (.ok ())),
    .write 0,
    .setAddress "eth0" .any,
    .step (.turn 0 (.caller (.setServers subscribed (.events 0 ⟨0⟩) "eth0")) (.ok ())),
    .step (.turn 0 (.caller (.keepConfiguration subscribed (.events 0 ⟨0⟩))) ()),
    .step (.turn 0 (.caller (.settle subscribed (.events 0 ⟨0⟩))) ()),
    .step (.turn 0 (.caller (.startWorker subscribed 0 ⟨0⟩)) (.ok ())),
    .step (.turn 1 (.worker (.look subscribedJob))
      (.ok [⟨"eth0", .ethernet, .any, true⟩, ⟨"wlan0", .wifi, .loopback, true⟩])),
    .step (.turn 1 (.worker (.receive subscribedJob)) .timeout),
    .step (.turn 1 (.worker (.checkTimeout subscribedJob)) ()),
    .call 2,
    .call 0,
    .step (.turn 1 (.worker (.receive subscribedJob)) (.change ⟨"eth0", .ethernet, .any⟩)),
    .call 0,
    .step (.turn 1 (.worker (.receive subscribedJob)) (.change ⟨"wlan0", .wifi, .loopback⟩)),
    .step (.turn 1 (.worker (.receive subscribedJob))
      (.change ⟨"eth0", .ethernet, SimulatedNetwork.lease⟩))]

/-- A new coordinator with its first caller, and the network. -/
def beforeLease : Stage :=
  ⟨{ threads := [.caller (.claim subscribed)] }, { network := { interfaces := twoInterfaces } }⟩

theorem opening_beforeLease : Opening {} subscribed 0 beforeLease where
  unclaimed := ⟨.fresh, by simp [beforeLease, Thread.isIdle, Caller.outlook?]⟩
  workless := by simp [beforeLease, Thread.isWorker]
  events := rfl
  present := rfl
  serves := ⟨rfl, by decide⟩
  unused := rfl

/-- The worker of that setup is satisfied in the end. -/
theorem no_lost_wakeup_lease_lost : ∃ last : Stage,
    beforeLease.run? leaseLostAgain = some last ∧
      (beforeLease.shown subscribed ⟨0⟩ leaseLostAgain).length = 1 ∧
      last.system.threads[1]? = some (.worker (.checkAddress subscribedJob)) ∧
      Worker.isSatisfied last.system.cells (.checkAddress subscribedJob) = true := by
  obtain ⟨-, worker⟩ := @no_lost_wakeup {} subscribed 0 beforeLease _ leaseLostAgain.tail
    opening_beforeLease (by decide) rfl
  refine ⟨_, rfl, rfl, rfl, ?_⟩
  exact (worker 1 _ rfl).2 (by decide) ⟨by decide, by decide⟩

end Uplink.Readiness
