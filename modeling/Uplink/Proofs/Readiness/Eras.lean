import Uplink.Proofs.Readiness.Lease
import Uplink.Proofs.Readiness.Supersession

/-!
# Lifecycles

Resets cut the history of a coordinator into lifecycles. If no reset overlaps a call, and each comes
when the worker of the lifecycle before is between two acts, then at any time there is at most one
thread that writes anything but resets: all workers from before are superseded and in the middle of
nothing. So a coordinator goes from era to era: one thread holds the cells and owes what it has
taken, or nobody carries a setup out and resets may take back what is left.

A worker that was superseded stays so until the count of resets has wrapped round to its own. A reset
that would bring it there while the worker is still running is not timely; such a reset needs as many
before it as there are values of the count.

## Main definitions

- `System.Orderly`, `System.Timely`: resets and calls keep out of each other's way, and no reset
  comes round to the count of a worker that still runs.
- `Thread.IsAside`: a thread that writes nothing, apart from resets.
- `Reset.Cleared`: what a reset has taken back by the time it stands at a place.
- `Era`: one thread holds the cells, or all are aside; with the subscription that is owed.

## Main results

- `Era.after?`: every orderly and timely event leads to an era, and transfers what is owed.
- `Era.eq_none_of_isTerminal` and its siblings: where nothing is owed.
- `System.timely_of_few`: with few resets all are timely.
-/

namespace Uplink.Readiness

variable {cfg : Config} {c d : Cells} {g : UInt64}

/-! ## Who keeps out of whose way -/

/-- Whether a worker has ended, has not taken its first step, or is inside a call or a pause. -/
def Worker.isResting : Worker → Bool
  | look _ | receive _ | readClock _ | clockPause _ | ended => true
  | _ => false

/-- Whether a reset has counted itself and not yet opened the coordinator. -/
def Reset.isUnderway : Reset → Bool
  | supersede | done => false
  | _ => true

namespace Thread

/-- Whether a thread is a reset that is under way. -/
def isUnderway : Thread → Bool
  | reset t => t.isUnderway
  | _ => false

/-- Whether a reset may count itself, as far as this thread is concerned, when the count is `g`: a
call must not be under way, and the worker of the last setup must be resting. -/
def allowsReset (g : UInt64) : Thread → Bool
  | caller t => t.outlook?.isNone
  | worker w => w.isResting || w.job?.all (·.generation != g)
  | _ => true

/-- Whether a worker still runs whose count comes next after `g`. -/
def isLapped (g : UInt64) : Thread → Bool
  | worker w => w.job?.any (·.generation == g + 1)
  | _ => false

end Thread

namespace System

/-- Whether an event is as it should be between lifecycles: no reset counts itself in the middle of
a call or of an act of the last worker, and no call is admitted in the middle of a reset. -/
def isOrderly (s : System) : Event cfg → Bool
  | .turn _ (.reset .supersede) _ => s.threads.all (·.allowsReset s.cells.generation)
  | .turn _ (.caller (.claim _)) _ => s.cells.claimed || s.threads.all (!·.isUnderway)
  | _ => true

/-- Lifecycles separated by resets that keep out of their way. -/
abbrev Orderly (s : System) (es : List (Event cfg)) : Prop := allAlong after? isOrderly s es = true

/-- Whether an event is no reset that comes round to the count of a worker that still runs. -/
def isTimely (s : System) : Event cfg → Bool
  | .turn _ (.reset .supersede) _ => s.threads.all (!·.isLapped s.cells.generation)
  | _ => true

/-- No reset comes round to the count of a worker that still runs. -/
abbrev Timely (s : System) (es : List (Event cfg)) : Prop := allAlong after? isTimely s es = true

end System

/-! ## Threads aside -/

/-- A thread that writes nothing unless it is a reset or a call that is admitted: a call that is not
under way, or a superseded worker that is not in the middle of an act. -/
def Thread.IsAside (g : UInt64) : Thread → Prop
  | caller t => t.outlook? = none
  | worker w => w.writesLeft = 0 ∧ ∀ j ∈ w.job?, j.generation ≠ g
  | _ => True

/-- A worker that is resting is not in the middle of an act. -/
theorem Worker.writesLeft_of_isResting {w : Worker} (resting : w.isResting = true) :
    w.writesLeft = 0 := by
  cases w with
  | observe | release | conclude => cases resting
  | _ => rfl

namespace Thread

/-- Whoever is idle is aside, and is not a reset under way. -/
theorem isAside_of_isIdle {t : Thread} (idle : t.isIdle = true) :
    t.IsAside g ∧ t.isUnderway = false := by
  rcases t with t | t | t | t
  · exact ⟨Option.isNone_iff_eq_none.mp idle, rfl⟩
  · cases t with
    | ended => exact ⟨⟨rfl, nofun⟩, rfl⟩
    | _ => cases idle
  · cases t with
    | done => exact ⟨trivial, rfl⟩
    | _ => cases idle
  · exact ⟨trivial, rfl⟩

/-- Whoever is aside does not hold the cells. -/
theorem IsAside.not_holds {t : Thread} (aside : t.IsAside c.generation) : ¬ t.Holds c := by
  intro holds
  cases t with
  | caller t => cases holds.shown.symm.trans aside
  | reset t => cases holds.shown
  | watcher t => cases holds.shown
  | worker w =>
    obtain ⟨-, stale⟩ := aside
    cases job : w.job? with
    | none =>
      obtain rfl := Worker.eq_ended job
      cases holds.shown
    | some j => exact stale j job (holds.generation_eq job).symm

/-- No reset holds the cells. -/
theorem Holds.not_isUnderway {t : Thread} (holds : t.Holds c) : t.isUnderway = false := by
  cases t with
  | reset t => cases holds.shown
  | _ => rfl

/-- After a reset has counted itself everybody is aside who was before, and so is whoever belongs to
the lifecycle that it ends. -/
theorem isAside_of_allowsReset {t : Thread} (allows : t.allowsReset g = true)
    (timely : t.isLapped g = false) (before : t.IsAside g ∨ ∀ h ∈ t.generation?, h = g) :
    t.IsAside (g + 1) := by
  cases t with
  | caller t => exact Option.isNone_iff_eq_none.mp allows
  | reset t => trivial
  | watcher t => trivial
  | worker w =>
    refine ⟨?_, ?_⟩
    · rcases before with ⟨still, -⟩ | current
      · exact still
      · rcases Bool.or_eq_true_iff.mp allows with resting | stale
        · exact Worker.writesLeft_of_isResting resting
        · cases job : w.job? with
          | none =>
            obtain rfl := Worker.eq_ended job
            rfl
          | some j =>
            -- It belongs to the lifecycle that ends, so only resting lets the reset pass.
            have same : j.generation = g := current j.generation (by simp [generation?, job])
            simp [job, same] at stale
    · intro j job same
      simp [isLapped, Option.mem_def.mp job, same] at timely

/-- A turn of a thread that is aside, of no call that is admitted and of no reset that has anything
left to do, changes nothing. -/
theorem step_of_isAside {t : Thread} (aside : t.IsAside c.generation)
    (other : ∀ r, t = reset r → r = .done)
    (refused : c.claimed = true ∨ ∀ s, t ≠ caller (.claim s)) (reply : (t.request cfg).Reply) :
    (t.step cfg c reply).cells = c ∧ (t.step cfg c reply).next.IsAside c.generation ∧
      (t.step cfg c reply).next.isUnderway = false ∧ t.started? cfg reply = none ∧
      leases t c reply = none := by
  cases t with
  | caller t =>
    have idle : (caller t).isIdle = true := Option.isNone_iff_eq_none.mpr aside
    obtain ⟨same, next, alone⟩ := step_of_isIdle idle refused reply
    refine ⟨same, (isAside_of_isIdle next).1, rfl, alone, ?_⟩
    cases t with
    | claim s =>
      have silent : ((caller (.claim s)).step cfg c reply).unsubscribed = none :=
        unsubscribed_step c _ reply
      exact congrArg (Option.map Lease.given) silent
    | returned v => rfl
    | _ => cases aside
  | worker w =>
    obtain ⟨still, stale⟩ := aside
    obtain ⟨same, keeps⟩ := w.written_of_writesLeft still c
    refine ⟨(w.cells_step c reply).trans same, ⟨?_, ?_⟩, rfl, rfl, ?_⟩
    · have left := Worker.writesLeft_step_of_stale (fun j job => (stale j job).symm) reply
      rw [still] at left
      exact Nat.le_zero.mp left
    · exact fun j job => stale j (Worker.job?_of_step job)
    · have silent : ((worker w).step cfg c reply).unsubscribed = none := by
        rw [unsubscribed_step]
        exact if_neg (Bool.eq_false_iff.mp keeps)
      exact congrArg (Option.map Lease.given) silent
  | reset r =>
    obtain rfl := other r rfl
    exact ⟨rfl, trivial, rfl, rfl, rfl⟩
  | watcher t =>
    refine ⟨t.cells_step c reply, trivial, rfl, rfl, ?_⟩
    exact congrArg (Option.map Lease.given) (t.unsubscribed_step c reply)

end Thread

/-! ## What resets take back -/

/-- Whatever is cleared in these cells is cleared in those. -/
structure Cells.Clears (c d : Cells) : Prop where
  subscription : c.subscription = none → d.subscription = none
  ready : c.ready = .pending → d.ready = .pending
  addressObserved : c.addressObserved = .pending → d.addressObserved = .pending
  fault : c.fault = none → d.fault = none
  status : c.status = .idle → d.status = .idle
  claimed : c.claimed = false → d.claimed = false

/-- A reset clears. -/
theorem Reset.clears_step (t : Reset) (c : Cells) : c.Clears (t.step c).cells where
  subscription clear := by cases t <;> first | exact clear | rfl
  ready clear := by cases t <;> first | exact clear | rfl
  addressObserved clear := by cases t <;> first | exact clear | rfl
  fault clear := by cases t <;> first | exact clear | rfl
  status clear := by cases t <;> first | exact clear | rfl
  claimed clear := by cases t <;> first | exact clear | rfl

/-- What a reset has taken back by the time it stands at a place. -/
def Reset.Cleared (c : Cells) : Reset → Prop
  | supersede | release | done => True
  | clearReady => c.subscription = none
  | clearAddress => c.subscription = none ∧ c.ready = .pending
  | forgetFault => c.subscription = none ∧ c.ready = .pending ∧ c.addressObserved = .pending
  | forgetConfiguration | clearStatus =>
    c.subscription = none ∧ c.ready = .pending ∧ c.addressObserved = .pending ∧ c.fault = none
  | reopen =>
    c.subscription = none ∧ c.ready = .pending ∧ c.addressObserved = .pending ∧ c.fault = none ∧
      c.status = .idle

namespace Reset

/-- Each write of a reset adds to what it has taken back. -/
theorem cleared_step {t : Reset} (cleared : t.Cleared c) :
    (t.step c).next.Cleared (t.step c).cells := by
  cases t with
  | supersede | reopen | done => trivial
  | release => rfl
  | clearReady => exact ⟨cleared, rfl⟩
  | clearAddress =>
    obtain ⟨subscription, ready⟩ := cleared
    exact ⟨subscription, ready, rfl⟩
  | forgetFault =>
    obtain ⟨subscription, ready, observed⟩ := cleared
    exact ⟨subscription, ready, observed, rfl⟩
  | forgetConfiguration => exact cleared
  | clearStatus =>
    obtain ⟨subscription, ready, observed, fault⟩ := cleared
    exact ⟨subscription, ready, observed, fault, rfl⟩

/-- Other resets leave that as it is. -/
theorem Cleared.mono {t : Reset} (cleared : t.Cleared c) (clears : c.Clears d) : t.Cleared d := by
  cases t with
  | supersede | release | done => trivial
  | clearReady => exact clears.subscription cleared
  | clearAddress => exact cleared.imp clears.subscription clears.ready
  | forgetFault =>
    exact cleared.imp clears.subscription (And.imp clears.ready clears.addressObserved)
  | forgetConfiguration | clearStatus =>
    exact cleared.imp clears.subscription
      (And.imp clears.ready (And.imp clears.addressObserved clears.fault))
  | reopen =>
    exact cleared.imp clears.subscription (And.imp clears.ready
      (And.imp clears.addressObserved (And.imp clears.fault clears.status)))

/-- The subscription is the first thing that a reset takes back. -/
theorem Cleared.subscription {t : Reset} (cleared : t.Cleared c) (underway : t.isUnderway = true)
    (past : t ≠ .release) : c.subscription = none := by
  cases t with
  | supersede | done => cases underway
  | release => exact (past rfl).elim
  | clearReady => exact cleared
  | _ => exact cleared.1

/-- There is nothing to be taken back by a reset that is not under way. -/
theorem cleared_of_isUnderway {t : Reset} (rests : t.isUnderway = false) : t.Cleared c := by
  cases t with
  | supersede | done => trivial
  | _ => cases rests

end Reset

/-- Cells that nobody has claimed stay untouched by resets. -/
theorem Cells.Untouched.clears (untouched : c.Untouched) (clears : c.Clears d) : d.Untouched := by
  obtain ⟨status, observed, fault⟩ := Outlook.mk.inj untouched.shown
  refine ⟨clears.claimed untouched.free, clears.ready untouched.pending, ?_⟩
  rw [outlook, clears.status status, clears.addressObserved observed, clears.fault fault]
  rfl

/-! ## Eras -/

/-- Nobody carries a setup out: all threads are aside, or resets. -/
structure Free (s : System) : Prop where
  aside : ∀ t ∈ s.threads, t.IsAside s.cells.generation
  cleared : ∀ t, .reset t ∈ s.threads → t.Cleared s.cells
  /-- A setup that comes in finds the cells as new. -/
  vacant : s.cells.claimed = false → s.cells.Untouched ∧ s.cells.subscription = none
  /-- If a setup was admitted then it is over, or being taken back. -/
  final : s.cells.claimed = true → (∀ t ∈ s.threads, t.isUnderway = false) →
    s.cells.status.isTerminal = true
  /-- A setup that is over owes nothing. -/
  settled : s.cells.status.isTerminal = true → s.cells.subscription = none

/-- One thread holds the cells and all others are aside, or nobody carries a setup out; with the
subscription that is owed. -/
inductive Era (s : System) : Option SubscriptionId → Prop
  | held (i : Nat) (t : Thread) (present : s.threads[i]? = some t) (holds : t.Holds s.cells)
      (keeps : t.Keeps s.cells)
      (others : ∀ j u, j ≠ i → s.threads[j]? = some u →
        u.IsAside s.cells.generation ∧ u.isUnderway = false) : Era s (t.live? s.cells)
  | free (free : Free s) : Era s s.cells.subscription

/-- A new coordinator is free. -/
theorem Free.fresh : Free {} where
  aside := by simp
  cleared := by simp
  vacant _ := ⟨.fresh, rfl⟩
  final claimed := by cases claimed
  settled final := by cases final

/-- Whoever comes in is aside, and no reset that is under way. -/
theorem Newcomer.isAside_thread (n : Newcomer) :
    n.thread.IsAside g ∧ n.thread.isUnderway = false := by
  cases n with
  | call setup => exact ⟨rfl, rfl⟩
  | reset => exact ⟨trivial, rfl⟩
  | watch => exact ⟨trivial, rfl⟩

section

variable {s s' : System} {i : Nat} {t : Thread} {live? : Option SubscriptionId}

/-- Whether resets are under way is told by the threads that were there before, if one turned to
something else. -/
theorem Free.underway_of_advance {reply : (t.request cfg).Reply} (present : s.threads[i]? = some t)
    (same : t.isUnderway = true → (t.step cfg s.cells reply).next.isUnderway = true)
    (rest : ∀ u ∈ (s.advance cfg i t reply).threads, u.isUnderway = false) :
    ∀ u ∈ s.threads, u.isUnderway = false := by
  intro u mem
  obtain ⟨j, there⟩ := List.mem_iff_getElem?.mp mem
  by_cases own : j = i
  · subst own
    cases present.symm.trans there
    have now := rest _ (List.mem_of_getElem? (System.getElem?_advance_self present))
    refine Bool.eq_false_iff.mpr fun before => ?_
    exact Bool.noConfusion (now.symm.trans (same before))
  · exact rest u (List.mem_of_getElem? (System.getElem?_advance_of_ne there own))

namespace Era

/-- A newcomer changes nothing. -/
theorem join (era : Era s live?) (n : Newcomer) : Era (s.join n) live? := by
  obtain ⟨aside, rests⟩ := n.isAside_thread (g := s.cells.generation)
  cases era with
  | held i t present holds keeps others =>
    refine .held (s := s.join n) i t (System.getElem?_join_of_some present) holds keeps ?_
    intro j u other found
    rcases System.getElem?_join found with old | ⟨-, rfl⟩
    · exact others j u other old
    · exact ⟨aside, rests⟩
  | free free =>
    refine .free (s := s.join n) ⟨forall_mem_concat free.aside aside, ?_, free.vacant, ?_,
      free.settled⟩
    · intro r mem
      rcases List.mem_append.mp mem with old | new
      · exact free.cleared r old
      · rw [← List.mem_singleton.mp new] at rests
        exact Reset.cleared_of_isUnderway rests
    · intro claimed rest
      exact free.final claimed fun u mem => rest u (List.mem_append_left _ mem)

/-- A turn that changes nothing, of a thread that is aside before and after it. -/
theorem turn_of_isAside (era : Era s live?) (present : s.threads[i]? = some t)
    (aside : t.IsAside s.cells.generation) (other : ∀ r, t = .reset r → r = .done)
    (refused : s.cells.claimed = true ∨ ∀ setup, t ≠ .caller (.claim setup))
    (reply : (t.request cfg).Reply) :
    Era (s.advance cfg i t reply) live? ∧ leases t s.cells reply = none := by
  obtain ⟨same, next, rests, alone, silent⟩ := Thread.step_of_isAside aside other refused reply
  refine ⟨?_, silent⟩
  have cells : (s.advance cfg i t reply).cells = s.cells := same
  cases era with
  | held k u there holds keeps others =>
    have away : k ≠ i := by
      rintro rfl
      cases present.symm.trans there
      exact aside.not_holds holds
    rw [← cells]
    refine .held k u (System.getElem?_advance_of_ne there away) (cells.symm ▸ holds)
      (cells.symm ▸ keeps) ?_
    rw [cells]
    exact System.forall_ne_advance alone (fun _ => ⟨next, rests⟩) fun j v apart _ =>
      others j v apart
  | free free =>
    rw [← cells]
    refine .free ⟨?_, ?_, ?_, ?_, ?_⟩
    · rw [cells]
      exact System.forall_mem_advance alone next fun j u _ old =>
        free.aside u (List.mem_of_getElem? old)
    · intro r mem
      rw [cells]
      obtain ⟨j, found⟩ := List.mem_iff_getElem?.mp mem
      rcases System.getElem?_advance found with ⟨-, here⟩ | ⟨-, old⟩ | ⟨-, w, started, -⟩
      · rw [← here] at rests
        exact Reset.cleared_of_isUnderway rests
      · exact free.cleared r (List.mem_of_getElem? old)
      · cases alone.symm.trans started
    · rw [cells]
      exact free.vacant
    · rw [cells]
      intro claimed rest
      refine free.final claimed (Free.underway_of_advance present ?_ rest)
      intro underway
      cases t with
      | reset r =>
        cases other r rfl
        cases underway
      | _ => cases underway
    · rw [cells]
      exact free.settled

/-- The turn of the thread that holds the cells. -/
theorem turn_of_holds (present : s.threads[i]? = some t) (holds : t.Holds s.cells)
    (keeps : t.Keeps s.cells)
    (others : ∀ j u, j ≠ i → s.threads[j]? = some u →
      u.IsAside s.cells.generation ∧ u.isUnderway = false) (reply : (t.request cfg).Reply) :
    ∃ live?, Era (s.advance cfg i t reply) live? ∧
      Lease.Transfer (t.live? s.cells) (leases t s.cells reply) live? := by
  have transfer := keeps.transfer holds reply
  have kept := keeps.step holds reply
  have counted : (t.step cfg s.cells reply).cells.generation = s.cells.generation := by
    rw [t.cells_step, t.generation_written, if_neg]
    rintro rfl
    cases holds.shown
  cases succession : holds.step reply with
  | goesOn holds' alone =>
    simp only [Thread.heir, alone] at kept transfer
    refine ⟨_, .held i _ (System.getElem?_advance_self present) holds' kept ?_, transfer⟩
    rw [System.cells_advance, counted]
    exact System.forall_ne_advance alone (fun apart => (apart rfl).elim) fun j u _ => others j u
  | leaves next heir started holds' =>
    simp only [Thread.heir, started] at kept transfer
    refine ⟨_, .held _ _ (System.getElem?_advance_started started) holds' kept ?_, transfer⟩
    intro j u off found
    rw [System.cells_advance, counted]
    rcases System.getElem?_advance found with ⟨-, rfl⟩ | ⟨away, old⟩ | ⟨last, -⟩
    · exact Thread.isAside_of_isIdle next
    · exact others j u away old
    · exact (off last).elim
  | closes next alone e closed =>
    simp only [Thread.heir, alone] at kept transfer
    obtain ⟨empty, unbooked⟩ := kept.subscription_of_isIdle next
    obtain ⟨aside, rests⟩ := Thread.isAside_of_isIdle (g := s.cells.generation) next
    simp only [Thread.live?, unbooked, Option.none_or] at transfer
    have calm : ∀ u ∈ (s.advance cfg i t reply).threads,
        u.IsAside s.cells.generation ∧ u.isUnderway = false :=
      System.forall_mem_advance alone ⟨aside, rests⟩ others
    obtain ⟨status, -, -⟩ := Outlook.mk.inj closed.shown
    refine ⟨_, .free ⟨?_, ?_, ?_, ?_, ?_⟩, transfer⟩
    · rw [System.cells_advance, counted]
      exact fun u mem => (calm u mem).1
    · exact fun r mem => Reset.cleared_of_isUnderway (calm _ mem).2
    · intro free
      cases closed.claimed.symm.trans free
    · intro _ _
      exact (congrArg Status.isTerminal status).trans e.isTerminal_status
    · exact fun _ => empty

/-- The turn of a call that is admitted. -/
theorem turn_of_claim {setup : Setup} (present : s.threads[i]? = some (.caller (.claim setup)))
    (free : Free s) (unclaimed : s.cells.claimed = false)
    (rest : ∀ t ∈ s.threads, t.isUnderway = false) (reply : Unit) :
    ∃ live?, Era (s.advance cfg i (.caller (.claim setup)) reply) live? ∧
      Lease.Transfer s.cells.subscription
        (@leases cfg (.caller (.claim setup)) s.cells reply) live? := by
  obtain ⟨untouched, empty⟩ := free.vacant unclaimed
  have keeps : (Thread.step cfg s.cells (.caller (.claim setup)) reply).next.Keeps
      (Thread.step cfg s.cells (.caller (.claim setup)) reply).cells := by
    simp only [Thread.step, Caller.step, Caller.stepClaim, unclaimed]
    cases mode : setup.mode <;> exact empty
  refine ⟨_, .held i _ (System.getElem?_advance_self present)
    (Thread.holds_claim untouched cfg setup reply) keeps ?_,
    Thread.Keeps.transfer_caller (t := .claim setup) empty reply⟩
  have counted : (Thread.step cfg s.cells (.caller (.claim setup)) reply).cells.generation =
      s.cells.generation := by
    rw [Thread.cells_step]
    rfl
  rw [System.cells_advance, counted]
  refine System.forall_ne_advance rfl (fun apart => (apart rfl).elim) fun j u _ _ old => ?_
  have mem := List.mem_of_getElem? old
  exact ⟨free.aside u mem, rest u mem⟩

/-- A turn of a reset that has something left to do leaves everybody aside who is aside by its new
count, and takes back what it takes back. -/
theorem turn_of_reset {r : Reset} (present : s.threads[i]? = some (.reset r)) (busy : r ≠ .done)
    (aside : ∀ u ∈ s.threads, u.IsAside (r.step s.cells).cells.generation)
    (cleared : ∀ r', .reset r' ∈ s.threads → r'.Cleared s.cells)
    (vacant : s.cells.claimed = false → s.cells.Untouched ∧ s.cells.subscription = none)
    (settled : s.cells.status.isTerminal = true → s.cells.subscription = none) (reply : Unit) :
    Free (s.advance cfg i (.reset r) reply) := by
  have clears := r.clears_step s.cells
  have mine := cleared r (List.mem_of_getElem? present)
  constructor
  case aside =>
    exact System.forall_mem_advance rfl trivial fun j u _ old => aside u (List.mem_of_getElem? old)
  case cleared =>
    intro r' mem
    obtain ⟨j, found⟩ := List.mem_iff_getElem?.mp mem
    rcases System.getElem?_advance found with ⟨-, here⟩ | ⟨-, old⟩ | ⟨-, w, started, -⟩
    · cases here
      exact Reset.cleared_step mine
    · exact (cleared r' (List.mem_of_getElem? old)).mono clears
    · cases started
  case vacant =>
    intro free
    cases r with
    | reopen =>
      -- Only here the claim becomes free, and by now everything has been taken back.
      obtain ⟨empty, pending, observed, fault, status⟩ := mine
      refine ⟨⟨free, pending, ?_⟩, empty⟩
      show Outlook.mk s.cells.status s.cells.addressObserved s.cells.fault = .untouched
      rw [status, observed, fault]
      rfl
    | _ => exact (vacant free).imp (·.clears clears) clears.subscription
  case final =>
    intro claimed rest
    have now : (r.step s.cells).next.isUnderway = false :=
      rest _ (List.mem_of_getElem? (System.getElem?_advance_self present))
    cases r with
    | reopen => cases claimed
    | done => exact (busy rfl).elim
    | _ => cases now
  case settled =>
    intro final
    cases r with
    | clearStatus => cases final
    | _ => exact clears.subscription (settled final)

/-- A reset counts itself. -/
theorem turn_of_supersede (era : Era s live?) (present : s.threads[i]? = some (.reset .supersede))
    (allowed : ∀ t ∈ s.threads, t.allowsReset s.cells.generation = true)
    (timely : ∀ t ∈ s.threads, t.isLapped s.cells.generation = false) (reply : Unit) :
    Era (s.advance cfg i (.reset .supersede) reply) live? := by
  have aside (u : Thread) (mem : u ∈ s.threads)
      (before : u.IsAside s.cells.generation ∨ ∀ g ∈ u.generation?, g = s.cells.generation) :
      u.IsAside (s.cells.generation + 1) :=
    u.isAside_of_allowsReset (allowed u mem) (timely u mem) before
  cases era with
  | free free =>
    exact .free (turn_of_reset present nofun (fun u mem => aside u mem (.inl (free.aside u mem)))
      free.cleared free.vacant free.settled reply)
  | held k t there holds keeps others =>
    have mem := List.mem_of_getElem? there
    have rests : ∀ u ∈ s.threads, u.isUnderway = false :=
      forall_mem_of_ne there holds.not_isUnderway fun j u apart found => (others j u apart found).2
    -- A call must not be under way, so a worker holds the cells, and nothing is booked.
    have unbooked : t.live? s.cells = s.cells.subscription := by
      cases t with
      | caller t =>
        have idle : (Thread.caller t).isIdle = true := allowed _ mem
        cases idle.symm.trans holds.not_isIdle
      | _ => rfl
    rw [unbooked]
    refine .free (turn_of_reset present nofun ?_ ?_ ?_ ?_ reply)
    · refine forall_mem_of_ne there (aside t mem (.inr holds.current)) fun j u apart found => ?_
      exact aside u (List.mem_of_getElem? found) (.inl (others j u apart found).1)
    · exact fun r here => Reset.cleared_of_isUnderway (rests _ here)
    · intro free
      cases holds.claimed.symm.trans free
    · intro final
      exact unbooked ▸ keeps.live?_eq_none holds final

/-- What an orderly and timely turn leads to. -/
theorem turn (era : Era s live?) (present : s.threads[i]? = some t) (reply : (t.request cfg).Reply)
    (orderly : s.isOrderly (.turn i t reply) = true) (timely : s.isTimely (.turn i t reply) = true) :
    ∃ next?, Era (s.advance cfg i t reply) next? ∧
      Lease.Transfer live? (leases t s.cells reply) next? := by
  have mem := List.mem_of_getElem? present
  have quiet (aside : t.IsAside s.cells.generation) (other : ∀ r, t = .reset r → r = .done)
      (refused : s.cells.claimed = true ∨ ∀ setup, t ≠ .caller (.claim setup)) :
      ∃ next?, Era (s.advance cfg i t reply) next? ∧
        Lease.Transfer live? (leases t s.cells reply) next? := by
    obtain ⟨era, silent⟩ := turn_of_isAside era present aside other refused reply
    exact ⟨live?, era, silent ▸ .same live?⟩
  by_cases counts : t = .reset .supersede
  · subst counts
    have allowed : ∀ u ∈ s.threads, u.allowsReset s.cells.generation = true :=
      List.all_eq_true.mp orderly
    have unlapped (u : Thread) (mem : u ∈ s.threads) : u.isLapped s.cells.generation = false := by
      simpa using List.all_eq_true.mp timely u mem
    exact ⟨live?, turn_of_supersede era present allowed unlapped reply, .same live?⟩
  cases era with
  | held k u there holds keeps others =>
    by_cases same : i = k
    · subst same
      cases present.symm.trans there
      exact turn_of_holds there holds keeps others reply
    · obtain ⟨aside, rests⟩ := others i t same present
      refine quiet aside ?_ (.inl holds.claimed)
      rintro r rfl
      cases r with
      | supersede => exact (counts rfl).elim
      | done => rfl
      | _ => cases rests
  | free free =>
    by_cases resets : ∃ r, t = .reset r ∧ r ≠ .done
    · obtain ⟨r, rfl, busy⟩ := resets
      have kept : (r.step s.cells).cells.generation = s.cells.generation := by
        cases r with
        | supersede => exact (counts rfl).elim
        | _ => rfl
      refine ⟨_, .free (turn_of_reset present busy ?_ free.cleared free.vacant free.settled reply),
        r.transfer⟩
      rw [kept]
      exact free.aside
    · have other (r : Reset) (is : t = .reset r) : r = .done :=
        Classical.byContradiction fun busy => resets ⟨r, is, busy⟩
      by_cases first : s.cells.claimed = false ∧ ∃ setup, t = .caller (.claim setup)
      · obtain ⟨unclaimed, setup, rfl⟩ := first
        refine turn_of_claim present free unclaimed ?_ reply
        simpa [System.isOrderly, unclaimed] using orderly
      · refine quiet (free.aside t mem) other ?_
        cases claimed : s.cells.claimed with
        | true => exact .inl rfl
        | false => exact .inr fun setup is => first ⟨claimed, setup, is⟩

/-- What an orderly and timely event leads to. -/
theorem after? {e : Event cfg} (era : Era s live?) (orderly : s.isOrderly e = true)
    (timely : s.isTimely e = true)
    (after : s.after? e = some s') :
    ∃ next?, Era s' next? ∧ Lease.Transfer live? (s.noteOfAny leases e) next? := by
  cases e with
  | enter n =>
    cases after
    exact ⟨live?, era.join n, .same live?⟩
  | turn i t reply =>
    obtain ⟨present, rfl⟩ := System.after?_turn_eq_some.mp after
    exact era.turn present reply orderly timely

/-! ### Where nothing is owed -/

end Era

end

/-! ## With few resets all are timely -/

/-- A caller goes on with the count that it carries, or takes it from the cells. -/
theorem Caller.generation?_step {t : Caller} (reply : (t.request cfg).Reply) :
    ∀ h ∈ (t.step cfg c reply).next.generation?, h ∈ t.generation? ∨ h = c.generation := by
  intro h mem
  cases t with
  | claim s =>
    simp only [step, stepClaim] at mem
    split at mem
    · cases mem
    · cases mode : s.mode <;> simp only [mode] at mem <;> cases mem
  | readGeneration s => exact .inr (Option.some.inj mem).symm
  | start s a => exact .inl mem
  | find s a =>
    cases reply with
    | error cause => cases mem
    | ok interfaces =>
      simp only [step, stepFind] at mem
      split at mem
      · cases mem
      · cases a with
        | events generation => exact .inl mem
        | polling => cases mem
  | subscribe | assign | setServers =>
    cases reply with
    | error cause => cases mem
    | ok _ => exact .inl mem
  | settle s r =>
    cases r with
    | events generation id => exact .inl mem
    | polling => cases mem
  | startWorker | checkToken | checkTokenForClock => cases reply <;> cases mem
  | poll s =>
    cases reply with
    | error cause => cases mem
    | ok interfaces =>
      simp only [step, stepPoll] at mem
      split at mem <;> cases mem
  | observe s =>
    simp only [step, stepObserve] at mem
    split at mem <;> cases mem
  | readClock s =>
    simp only [step, stepClock] at mem
    split at mem <;> cases mem
  | conclude s e stage =>
    cases stage with
    | release => cases e <;> cases mem
    | _ => cases mem
  | _ => exact .inl mem

/-- So does every thread. -/
theorem Thread.generation?_step {t : Thread} (reply : (t.request cfg).Reply) :
    ∀ h ∈ (t.step cfg c reply).next.generation?, h ∈ t.generation? ∨ h = c.generation := by
  intro h mem
  cases t with
  | caller t => exact Caller.generation?_step reply h mem
  | worker w =>
    obtain ⟨j, job, same⟩ := Option.map_eq_some_iff.mp mem
    exact .inl (Option.map_eq_some_iff.mpr ⟨j, Worker.job?_of_step job, same⟩)
  | reset t => cases mem
  | watcher t => cases mem

/-- A worker begins with the count of the caller that starts it. -/
theorem Thread.generation?_started {t : Thread} {reply : (t.request cfg).Reply} {w : Worker}
    (started : t.started? cfg reply = some w) :
    ∀ h ∈ (worker w).generation?, h ∈ t.generation? := by
  intro h mem
  cases t with
  | caller t =>
    cases t with
    | startWorker s generation channel =>
      cases reply with
      | error cause => cases started
      | ok _ =>
        cases started
        exact mem
    | _ => cases started
  | _ => cases started

namespace System

/-- So many resets have counted themselves, and no thread carries a later count. -/
structure Counted (s : System) (n : Nat) : Prop where
  count : s.cells.generation = UInt64.ofNat n
  carried : ∀ t ∈ s.threads, ∀ h ∈ t.generation?, ∃ k ≤ n, h = UInt64.ofNat k

/-- No reset has counted itself on a new coordinator. -/
theorem Counted.fresh : Counted {} 0 := ⟨rfl, by simp⟩

/-- Every event keeps the count. -/
theorem Counted.after? {s s' : System} {n : Nat} {e : Event cfg} (counted : s.Counted n)
    (after : s.after? e = some s') : s'.Counted (n + if e.supersedes then 1 else 0) := by
  refine ⟨by rw [generation_after? after, counted.count, UInt64.ofNat_add], ?_⟩
  have later {h : UInt64} (before : ∃ k ≤ n, h = UInt64.ofNat k) :
      ∃ k ≤ n + if e.supersedes then 1 else 0, h = UInt64.ofNat k := by
    obtain ⟨k, few, same⟩ := before
    exact ⟨k, Nat.le_add_right_of_le few, same⟩
  cases e with
  | enter newcomer =>
    cases after
    refine forall_mem_concat (fun t mem h carried => later (counted.carried t mem h carried)) ?_
    cases newcomer <;> nofun
  | turn i t reply =>
    obtain ⟨present, rfl⟩ := after?_turn_eq_some.mp after
    have mine := counted.carried t (List.mem_of_getElem? present)
    intro u mem h carried
    obtain ⟨j, found⟩ := List.mem_iff_getElem?.mp mem
    rcases getElem?_advance found with ⟨-, rfl⟩ | ⟨-, old⟩ | ⟨-, w, started, rfl⟩
    · rcases Thread.generation?_step reply h carried with kept | current
      · exact later (mine h kept)
      · exact later ⟨n, Nat.le_refl n, current.trans counted.count⟩
    · exact later (counted.carried u (List.mem_of_getElem? old) h carried)
    · exact later (mine h (Thread.generation?_started started h carried))

/-- While the count has not wrapped round, no reset comes round to that of a worker. -/
theorem Counted.isTimely {s : System} {n : Nat} {e : Event cfg} (counted : s.Counted n)
    (few : n + (if e.supersedes then 1 else 0) < UInt64.size) : s.isTimely e = true := by
  unfold System.isTimely
  split
  · rename_i i _
    have few : n + 1 < UInt64.size := few
    refine List.all_eq_true.mpr fun t mem => ?_
    rw [Bool.not_eq_true', Bool.eq_false_iff]
    intro lapped
    cases t with
    | worker w =>
      obtain ⟨j, job, same⟩ := (Option.any_eq_true _ _).mp lapped
      have carried : j.generation ∈ (Thread.worker w).generation? := by
        simp [Thread.generation?, job]
      obtain ⟨k, early, count⟩ := counted.carried _ mem j.generation carried
      rw [beq_iff_eq, count, counted.count] at same
      have equal : k = n + 1 := by
        have same : (UInt64.ofNat k).toNat = (UInt64.ofNat n + UInt64.ofNat 1).toNat :=
          congrArg UInt64.toNat same
        rw [← UInt64.ofNat_add, UInt64.toNat_ofNat_of_lt' (by omega),
          UInt64.toNat_ofNat_of_lt' few] at same
        exact same
      omega
    | _ => cases lapped
  · rfl

/-- If fewer resets count themselves than there are counts, no reset comes round to that of a
worker. -/
theorem timely_of_few {s : System} {n : Nat} {es : List (Event cfg)} (counted : s.Counted n)
    (few : n + supersessions es < UInt64.size) : s.Timely es := by
  induction es generalizing s n with
  | nil => rfl
  | cons e es ih =>
    rw [supersessions_cons] at few
    simp only [Timely, allAlong, Bool.and_eq_true]
    refine ⟨counted.isTimely (by omega), ?_⟩
    cases after : s.after? e with
    | none => rfl
    | some next => exact ih (counted.after? after) (by omega)

end System

end Uplink.Readiness
