import Uplink.Proofs.Readiness.Applied
import Uplink.Proofs.Readiness.Subscriptions

/-!
# What a failing step leads to

A step of a setup may fail at many places: in two threads, with a subscription or without one,
before or between or after the two commands. All of them lead to the same few places, at which a
thread carries the fault to its end, and from there on nothing depends on what went before but the
cells that are not written any more.

A thread that carries a fault has six turns ahead of it at most. In the last of them it settles the
signal, and whatever the others do meanwhile changes nothing that counts.

## Main definitions

- `Request.mishap?`: the error of a step that fails.
- `Thread.Stops`: a thread carries a fault to the end of a setup; `Thread.turnsLeft` bounds its way.
- `Thread.Carries`: what it has made of the cells by then.

## Main results

- `Thread.stops_of_mishap`: every step that fails leads to such a place.
- `Thread.Carries.step`: one turn of a thread that carries a fault.
- `faults_surface`: what is left of a setup in which a step has failed.
-/

namespace Uplink.Readiness

variable {cfg : Config} {c : Cells} {f : Fault} {cause : ErrorChain} {mode : Mode} {t : Thread}

/-- The error of a step that fails: the one that was replied, or that of a subscription that has
ended. -/
def Request.mishap? (target : InterfaceKind) : (q : Request) → q.Reply → Option ErrorChain
  | listInterfaces, .error cause | subscribe, .error cause | command _, .error cause
  | startWorker _, .error cause => some cause
  | receive .., .closed => some (Fault.closed target).chain
  | _, _ => none

theorem Request.mishap?_of_isSilent {q : Request} (silent : q.isSilent = true)
    (target : InterfaceKind) (reply : q.Reply) : q.mishap? target reply = none := by
  cases q with
  | readToken | pause | watch | nothing => rfl
  | _ => cases silent

/-- A command that fails is not carried out. -/
theorem Request.done?_of_mishap {q : Request} {target : InterfaceKind} {reply : q.Reply}
    (fails : q.mishap? target reply = some cause) : q.done? reply = none := by
  cases q with
  | command c =>
    cases reply with
    | error e => rfl
    | ok _ => cases fails
  | _ => rfl

namespace Thread

/-- An idle thread neither takes a subscription nor gives one back. -/
theorem leases_of_isIdle (idle : t.isIdle = true) (reply : (t.request cfg).Reply) :
    leases t c reply = none := by
  have given : leases t c reply = (t.step cfg c reply).unsubscribed.map .given := by
    rcases t with t | t | t | t
    · cases t with
      | claim | returned => rfl
      | _ => cases idle
    all_goals rfl
  have silent : (t.request cfg).isSilent = true ∧ t.releases = false := isSilent_of_isIdle idle
  rw [given, unsubscribed_step, silent.2]
  rfl

/-- Whoever fails was busy. -/
theorem not_isIdle_of_mishap {target : InterfaceKind} {reply : (t.request cfg).Reply}
    (fails : (t.request cfg).mishap? target reply = some cause) : t.isIdle = false := by
  refine Bool.eq_false_iff.mpr fun idle => ?_
  rw [Request.mishap?_of_isSilent (isSilent_of_isIdle idle).1] at fails
  cases fails

end Thread

/-! ## Carrying a fault -/

/-- What the caller of a setup gets back when it fails. -/
def Mode.unready : Mode → Verdict
  | events => .accepted
  | polling => .answered false

theorem Ending.verdict_failed (target : InterfaceKind) (mode : Mode) :
    (Ending.failed f).verdict target mode = mode.unready := by
  cases mode <;> rfl

/-- How many writes of an ending are left. -/
def Ending.Stage.left : Stage → Nat
  | release => 4
  | keepFault => 3
  | publish => 2
  | settle => 1

namespace Thread

/-- How many turns a thread takes at most until it has closed its setup with a fault. -/
def turnsLeft : Thread → Nat
  | worker (.checkClosed _) => 6
  | worker (.checkFault ..) => 5
  | worker (.conclude _ _ stage) | caller (.conclude _ _ stage) => stage.left
  | _ => 0

/-- A thread carries a fault to the end of a setup with this way to wait, or has done so. -/
def Stops (target : InterfaceKind) (mode : Mode) (f : Fault) : Thread → Prop
  | worker (.checkClosed _) => f = .closed target
  | worker (.checkFault _ f') => f' = f
  | worker (.conclude _ e _) => e = .failed f
  | caller (.conclude s e _) => e = .failed f ∧ s.mode = mode
  | worker .ended => True
  | caller (.returned v) => v = mode.unready
  | _ => False

/-- What a thread that carries a fault has made of the cells: they keep what its place promises, and
its ending has closed them once it has no turns left. -/
structure Carries (target : InterfaceKind) (mode : Mode) (f : Fault) (t : Thread) (c : Cells) :
    Prop where
  stops : t.Stops target mode f
  keeps : t.Keeps c
  closed : t.turnsLeft = 0 → c.ClosedBy (.failed f)

namespace Stops

variable {target : InterfaceKind}

/-- A thread that carries a fault keeps no subscription to itself and starts nobody. -/
theorem quiet (stops : t.Stops target mode f) :
    t.booked? = none ∧ ∀ reply : (t.request cfg).Reply, t.started? cfg reply = none := by
  rcases t with t | t | t | t
  · cases t with
    | conclude | returned => exact ⟨rfl, fun _ => rfl⟩
    | _ => exact stops.elim
  · cases t with
    | checkClosed | checkFault | conclude | ended => exact ⟨rfl, fun _ => rfl⟩
    | _ => exact stops.elim
  · exact stops.elim
  · exact stops.elim

/-- It is idle when it has no turns left. -/
theorem turnsLeft_eq_zero (stops : t.Stops target mode f) : t.turnsLeft = 0 ↔ t.isIdle = true := by
  rcases t with t | t | t | t
  · cases t with
    | conclude s e stage =>
      cases stage <;> simp [turnsLeft, Ending.Stage.left, isIdle, Caller.outlook?]
    | returned v => simp [turnsLeft, isIdle, Caller.outlook?]
    | _ => exact stops.elim
  · cases t with
    | conclude j e stage =>
      cases stage <;> simp [turnsLeft, Ending.Stage.left, isIdle, Worker.outlook?]
    | checkClosed | checkFault | ended => simp [turnsLeft, isIdle, Worker.outlook?]
    | _ => exact stops.elim
  · exact stops.elim
  · exact stops.elim

/-- A caller that carries a fault gives no commands any more, and knows what it gets back. -/
theorem of_caller {u : Caller} (stops : (caller u).Stops target mode f) :
    u.turnsAhead = 0 ∧ ((caller u).turnsLeft = 0 → u = .returned mode.unready) := by
  cases u with
  | conclude s e stage =>
    refine ⟨rfl, fun through => ?_⟩
    cases stage <;> cases through
  | returned v => exact ⟨rfl, fun _ => congrArg _ stops⟩
  | _ => exact stops.elim

end Stops

end Thread

/-- One write of an ending that carries a fault. -/
theorem Ending.failed_step {Place : Type} (cfg : Config) (stage : Stage) (again : Stage → Place)
    (after : Place) (shown : c.outlook = (Ending.failed f).outlook stage)
    (claimed : c.claimed = true) (pending : c.ready = .pending) :
    (∃ following, ((Ending.failed f).step cfg stage again after c).next = again following ∧
        following.left = stage.left - 1) ∨
      ((Ending.failed f).step cfg stage again after c).next = after ∧
        ((Ending.failed f).step cfg stage again after c).cells.ClosedBy (.failed f) := by
  cases stage with
  | release => exact .inl ⟨.keepFault, rfl, rfl⟩
  | keepFault => exact .inl ⟨.publish, rfl, rfl⟩
  | publish => exact .inl ⟨.settle, rfl, rfl⟩
  | settle => exact .inr ⟨rfl, claimed, shown, congrArg (Ending.failed f).settle pending⟩

namespace Thread

/-- One turn of a thread that carries a fault. -/
theorem Carries.step (carries : t.Carries cfg.target mode f c)
    (bearer : t.Holds c ∨ t.isIdle = true) (reply : (t.request cfg).Reply) :
    (t.step cfg c reply).next.Carries cfg.target mode f (t.step cfg c reply).cells ∧
      (t.step cfg c reply).next.turnsLeft ≤ t.turnsLeft - 1 := by
  obtain ⟨stops, keeps, closed⟩ := carries
  have alone := stops.quiet.2 reply
  by_cases through : t.turnsLeft = 0
  · rcases t with t | t | t | t
    · cases t with
      | conclude s e stage => cases stage <;> cases through
      | returned v => exact ⟨⟨stops, keeps, closed⟩, Nat.le_refl _⟩
      | _ => exact stops.elim
    · cases t with
      | conclude j e stage => cases stage <;> cases through
      | ended => exact ⟨⟨stops, keeps, closed⟩, Nat.le_refl _⟩
      | checkClosed | checkFault => cases through
      | _ => exact stops.elim
    · exact stops.elim
    · exact stops.elim
  · have holds : t.Holds c := bearer.resolve_right fun idle =>
      through (stops.turnsLeft_eq_zero.mpr idle)
    have kept := keeps.step holds reply
    rw [heir, alone] at kept
    have arrive {u : Thread} (next : (t.step cfg c reply).next = u)
        (stops : u.Stops cfg.target mode f)
        (closed : u.turnsLeft = 0 → (t.step cfg c reply).cells.ClosedBy (.failed f))
        (nearer : u.turnsLeft ≤ t.turnsLeft - 1) :
        (t.step cfg c reply).next.Carries cfg.target mode f (t.step cfg c reply).cells ∧
          (t.step cfg c reply).next.turnsLeft ≤ t.turnsLeft - 1 := by
      subst next
      exact ⟨⟨stops, kept, closed⟩, nearer⟩
    rcases t with t | t | t | t
    · cases t with
      | conclude s e stage =>
        obtain ⟨rfl, same⟩ := stops
        rcases Ending.failed_step cfg stage (Caller.conclude s (.failed f))
          (.returned ((Ending.failed f).verdict cfg.target s.mode))
          (Option.some.inj holds.shown).symm holds.claimed holds.pending with
          ⟨following, next, left⟩ | ⟨next, closes⟩
        · exact arrive (congrArg caller next) ⟨rfl, same⟩
            (fun none => by cases following <;> cases none) left.le
        · exact arrive (congrArg caller next) (same ▸ Ending.verdict_failed cfg.target s.mode)
            (fun _ => closes) (Nat.zero_le _)
      | returned v => exact (through rfl).elim
      | _ => exact stops.elim
    · cases t with
      | checkClosed j =>
        have current : c.generation = j.generation := holds.generation_eq rfl
        refine arrive (u := worker (.checkFault j (.closed cfg.target))) ?_ stops.symm
          (fun none => by cases none) (Nat.le_refl _)
        simp only [Thread.step, Worker.step, current, if_true, Move.next_map]
      | checkFault j f' =>
        have current : c.generation = j.generation := holds.generation_eq rfl
        refine arrive (u := worker (.conclude j (.failed f') .release)) ?_ (congrArg _ stops)
          (fun none => by cases none) (Nat.le_refl _)
        simp only [Thread.step, Worker.step, current, if_true, Move.next_map]
        rfl
      | conclude j e stage =>
        obtain rfl := stops
        rcases Ending.failed_step cfg stage (Worker.conclude j (.failed f)) .ended
          (Option.some.inj holds.shown).symm holds.claimed holds.pending with
          ⟨following, next, left⟩ | ⟨next, closes⟩
        · exact arrive (congrArg worker next) rfl
            (fun none => by cases following <;> cases none) left.le
        · exact arrive (congrArg worker next) trivial (fun _ => closes) (Nat.zero_le _)
      | ended => exact (through rfl).elim
      | _ => exact stops.elim
    · exact stops.elim
    · exact stops.elim

/-- The fault of an address command ends with the error that it met. -/
theorem suffix_addressFault (s : Setup) (interface : String) (cause : ErrorChain) :
    cause.messages <:+ (Caller.addressFault s interface cause).chain.messages := by
  rw [Caller.addressFault]
  cases s.configuration <;> exact List.suffix_cons _ _

/-- Every step that fails leads to a place at which a thread carries a fault; its chain ends with
the error of the step. -/
theorem stops_of_mishap {reply : (t.request cfg).Reply}
    (fails : (t.request cfg).mishap? cfg.target reply = some cause)
    (own : ∀ s e stage, (t.step cfg c reply).next = caller (.conclude s e stage) → s.mode = mode) :
    ∃ f, cause.messages <:+ f.chain.messages ∧
      (t.step cfg c reply).next.Stops cfg.target mode f ∧
      0 < (t.step cfg c reply).next.turnsLeft ∧ (t.step cfg c reply).next.turnsLeft ≤ 6 ∧
      t.started? cfg reply = none := by
  have arrive {u : Thread} {f : Fault} (next : (t.step cfg c reply).next = u)
      (suffix : cause.messages <:+ f.chain.messages) (stops : u.Stops cfg.target mode f)
      (ahead : 0 < u.turnsLeft) (few : u.turnsLeft ≤ 6) (alone : t.started? cfg reply = none) :
      ∃ f, cause.messages <:+ f.chain.messages ∧
        (t.step cfg c reply).next.Stops cfg.target mode f ∧
        0 < (t.step cfg c reply).next.turnsLeft ∧ (t.step cfg c reply).next.turnsLeft ≤ 6 ∧
        t.started? cfg reply = none := by
    subst next
    exact ⟨f, suffix, stops, ahead, few, alone⟩
  rcases t with t | t | t | t
  · cases t with
    | find | subscribe | setServers | startWorker =>
      cases reply with
      | error e =>
        cases fails
        exact arrive rfl (List.suffix_cons _ _) ⟨rfl, own _ _ _ rfl⟩ (show 0 < 4 by decide)
          (show 4 ≤ 6 by decide) rfl
      | ok _ => cases fails
    | assign s r interface =>
      cases reply with
      | error e =>
        cases fails
        exact arrive rfl (suffix_addressFault s interface cause) ⟨rfl, own _ _ _ rfl⟩
          (show 0 < 4 by decide) (show 4 ≤ 6 by decide) rfl
      | ok _ => cases fails
    | poll s =>
      cases reply with
      | error e =>
        cases fails
        exact arrive rfl (List.suffix_refl _) ⟨rfl, own _ _ _ rfl⟩ (show 0 < 4 by decide)
          (show 4 ≤ 6 by decide) rfl
      | ok _ => cases fails
    | _ => cases fails
  · cases t with
    | look j =>
      cases reply with
      | error e =>
        cases fails
        exact arrive (f := .looking cause) rfl (List.suffix_refl _) rfl (show 0 < 5 by decide)
          (show 5 ≤ 6 by decide) rfl
      | ok _ => cases fails
    | receive j =>
      cases reply with
      | closed =>
        cases fails
        exact arrive rfl (List.suffix_refl _) rfl (show 0 < 6 by decide) (Nat.le_refl 6) rfl
      | _ => cases fails
    | _ => cases fails
  · cases fails
  · cases t <;> cases fails

end Thread

/-! ## Whole runs -/

section

variable {m s : System} {i k : Nat} {setup : Setup} {es : List (Event cfg)}

/-- While a setup is carried out, the cell of the subscription is as the place of the busy thread
promises, and every subscription but a live one was given back. -/
theorem Phase.leases_of_busy (unclaimed : m.Unclaimed) (bare : m.cells.subscription = none)
    (calm : Calm es) (run : m.run? (.turn i (.caller (.claim setup)) () :: es) = some s)
    (present : s.threads[k]? = some t) (busy : t.isIdle = false) :
    Phase s ∧ t.Keeps s.cells ∧
      Ledger (m.leased (.turn i (.caller (.claim setup)) () :: es)) (t.live? s.cells) := by
  obtain ⟨next, after, rest⟩ := runFrom?_cons_eq_some.mp run
  obtain ⟨there, rfl⟩ := System.after?_turn_eq_some.mp after
  have admitted : Phase (m.advance cfg i (.caller (.claim setup)) ()) :=
    .turn_of_claim there unclaimed.untouched unclaimed.idle ()
  have holds := Thread.holds_claim unclaimed.untouched cfg setup ()
  have begun : (Thread.step cfg m.cells (.caller (.claim setup)) ()).next.Keeps
        (Thread.step cfg m.cells (.caller (.claim setup)) ()).cells ∧
      Ledger [] ((Thread.step cfg m.cells (.caller (.claim setup)) ()).next.live?
        (Thread.step cfg m.cells (.caller (.claim setup)) ()).cells) := by
    simp only [Thread.step, Caller.step, Caller.stepClaim, unclaimed.untouched.free]
    cases setup.mode <;> exact ⟨bare, show Ledger [] m.cells.subscription from bare ▸ .nil⟩
  have carried := Phase.follow_heirs (f := leases)
    (K := fun c t notes => t.Keeps c ∧ Ledger notes (t.live? c))
    (fun reply idle _ => Thread.leases_of_isIdle idle reply)
    (fun reply kept holds =>
      ⟨kept.1.step holds reply, kept.2.transfer (kept.1.transfer holds reply)⟩)
    admitted (System.getElem?_advance_self there) holds begun calm rest
  have phase := admitted.run? calm rest
  have none : System.noteOfAny leases m (.turn i (.caller (.claim setup)) () : Event cfg) = none :=
    Thread.leases_of_isIdle (t := .caller (.claim setup)) rfl ()
  rw [System.leased, System.notedOfAll, notedFrom_cons after, none, Option.toList_none]
  obtain ⟨own, others⟩ := phase.holds present busy
  cases carried with
  | settled settled => exact (settled own.pending).elim
  | busy j u there holds kept =>
    obtain rfl : j = k := by
      by_contra apart
      cases (others j u apart there).symm.trans holds.not_isIdle
    cases there.symm.trans present
    exact ⟨phase, kept.1, kept.2⟩

/-- As many notes are taken on a thread as it takes turns, if each is noted. -/
theorem System.length_noted (run : m.run? es = some s) :
    (m.noted k (fun _ _ _ => some ()) es).length = turnsOf k es := by
  induction es generalizing m with
  | nil => rfl
  | cons e es ih =>
    obtain ⟨next, after, rest⟩ := runFrom?_cons_eq_some.mp run
    rw [System.noted, notedFrom_cons after, List.length_append, ih rest, turnsOf_cons, Nat.add_comm]
    cases e with
    | enter n => rfl
    | turn j u reply =>
      by_cases same : k = j
      · simp [System.note, Event.isTurnOf, same]
      · simp [System.note, Event.isTurnOf, same]

/-- A thread that carries a fault closes its setup in time, and gives back what was taken. -/
theorem Phase.surface (phase : Phase m) (present : m.threads[k]? = some t) (busy : t.isIdle = false)
    (carries : t.Carries cfg.target mode f m.cells) (few : t.turnsLeft ≤ 6) {notes : List Lease}
    (ledger : Ledger notes (t.live? m.cells)) (calm : Calm es) (run : m.run? es = some s)
    (many : 6 ≤ turnsOf k es) :
    (∃ u, s.threads[k]? = some u ∧ u.Stops cfg.target mode f ∧ u.turnsLeft = 0) ∧
      s.cells.ClosedBy (.failed f) ∧ s.cells.subscription = none ∧
      Ledger (notes ++ m.leased es) none := by
  have started : t.Carries cfg.target mode f m.cells ∧
      t.turnsLeft ≤ 6 - ([] : List Unit).length := ⟨carries, few⟩
  obtain ⟨u, there, carried, left⟩ := Phase.follow (f := fun _ _ _ => some ())
    (K := fun c t notes => t.Carries cfg.target mode f c ∧ t.turnsLeft ≤ 6 - notes.length)
    (fun kept => kept.1.stops.quiet.2)
    (fun {c t notes} reply kept bearer => by
      obtain ⟨carries, nearer⟩ := kept.1.step bearer reply
      refine ⟨carries, ?_⟩
      have left := kept.2
      simp only [List.length_append, Option.toList_some, List.length_singleton]
      omega)
    phase present busy started calm run
  rw [List.nil_append, System.length_noted run] at left
  have through : u.turnsLeft = 0 := by omega
  have closed := carried.closed through
  have idle := carried.stops.turnsLeft_eq_zero.mp through
  have empty := (carried.keeps.subscription_of_isIdle idle).1
  refine ⟨⟨u, there, carried.stops, through⟩, closed, empty, ?_⟩
  have leased := Phase.follow_heirs (f := leases)
    (K := fun c t notes => t.Carries cfg.target mode f c ∧ Ledger notes (t.live? c))
    (fun reply idle _ => Thread.leases_of_isIdle idle reply)
    (fun {c t notes} reply kept holds => by
      have moved := kept.2.transfer (kept.1.keeps.transfer holds reply)
      rw [Thread.heir, kept.1.stops.quiet.2 reply] at moved ⊢
      exact ⟨(kept.1.step (.inl holds) reply).1, moved⟩)
    phase present (phase.holds present busy).1 ⟨carries, ledger⟩ calm run
  have settle {v : Thread} (kept : v.Carries cfg.target mode f s.cells ∧
      Ledger (notes ++ m.leased es) (v.live? s.cells)) : Ledger (notes ++ m.leased es) none := by
    have quiet : v.booked? = none ∧ ∀ reply : (v.request cfg).Reply, v.started? cfg reply = none :=
      kept.1.stops.quiet
    have live : v.live? s.cells = none := by
      rw [Thread.live?, quiet.1, empty]
      rfl
    exact live ▸ kept.2
  cases leased with
  | busy _ _ _ _ kept => exact settle kept
  | settled _ _ kept => exact settle kept

namespace System.Led

variable {u : Caller}

/-- Whoever is busy is the caller that was admitted, or a worker. -/
theorem of_busy (led : m.Led i u) (present : m.threads[k]? = some t) (busy : t.isIdle = false) :
    (k = i ∧ t = .caller u) ∨ k ≠ i ∧ ∃ w, t = .worker w := by
  by_cases same : k = i
  · subst same
    exact .inl ⟨rfl, Option.some.inj (present.symm.trans led.own)⟩
  · refine .inr ⟨same, (led.others k t same present).resolve_left fun idle => ?_⟩
    cases idle.symm.trans busy

/-- A setup that the failing thread ends itself is the one that was admitted. -/
theorem mode_of_conclude (led : m.Led i u) (accounts : u.Accounts setup m.cells done)
    (present : m.threads[k]? = some t) (busy : t.isIdle = false) (reply : (t.request cfg).Reply)
    (s' : Setup) (e : Ending) (stage : Ending.Stage)
    (place : (t.step cfg m.cells reply).next = .caller (.conclude s' e stage)) :
    s'.mode = setup.mode := by
  rcases led.of_busy present busy with ⟨-, rfl⟩ | ⟨-, w, rfl⟩
  · have next : (u.step cfg m.cells reply).next = .conclude s' e stage := Thread.caller.inj place
    have accounts' := accounts.step reply
    rw [next] at accounts'
    exact congrArg Setup.mode accounts'.1
  · cases place

/-- A caller that gives no commands any more leaves the network as it is. -/
theorem commandsIn_eq_nil (led : m.Led i u) (past : u.turnsAhead = 0) (calm : Calm es)
    (run : m.run? es = some s) : (∃ v, s.Led i v) ∧ commandsIn es = [] := by
  obtain ⟨v, led', -, none⟩ := led.run? (fun _ => True) Event.command?
    (P := fun _ _ t notes => t.turnsAhead = 0 ∧ notes = []) ⟨past, rfl⟩ id
    (fun {n c t notes} reply kept _ => by
      obtain ⟨silent, next⟩ := Caller.turnsAhead_step_of_zero kept.1 (c := c) reply
      rw [Event.command?, Request.command?_eq_none silent, kept.2]
      exact ⟨next, rfl⟩)
    (fun kept _ => kept) (fun _ _ => trivial) calm run
  exact ⟨⟨v, led'⟩, none⟩

/-- A caller that is back stays so. -/
theorem returned_run? {v : Verdict} (led : m.Led i (.returned v)) (calm : Calm es)
    (run : m.run? es = some s) : s.Led i (.returned v) := by
  obtain ⟨-, led', rfl⟩ := led.run? (fun _ => True) Event.command?
    (P := fun _ _ t _ => t = .returned v) rfl id
    (fun reply back _ => by
      cases back
      rfl)
    (fun back _ => back) (fun _ _ => trivial) calm run
  exact led'

/-- Once the thread that carries the fault of a setup is through, the caller is back and was not
refused. No command was given meanwhile. -/
theorem unready {v : Thread} {reply : (t.request cfg).Reply} (led : m.Led i u)
    (accounts : u.Accounts setup m.cells done) (present : m.threads[k]? = some t)
    (busy : t.isIdle = false) (pending : m.cells.ready = .pending)
    (idle : ∀ j v, j ≠ k → m.threads[j]? = some v → v.isIdle = true)
    (stops : (t.step cfg m.cells reply).next.Stops cfg.target setup.mode f) (calm : Calm es)
    (run : (m.advance cfg k t reply).run? es = some s) (there : s.threads[k]? = some v)
    (stopped : v.Stops cfg.target setup.mode f) (through : v.turnsLeft = 0) :
    s.threads[i]? = some (.caller (.returned setup.mode.unready)) ∧ commandsIn es = [] := by
  rcases led.of_busy present busy with ⟨rfl, rfl⟩ | ⟨apart, w, rfl⟩
  · obtain ⟨⟨u', led'⟩, silent⟩ :=
      (led.turn_own reply).commandsIn_eq_nil stops.of_caller.1 calm run
    cases there.symm.trans led'.own
    exact ⟨stopped.of_caller.2 through ▸ led'.own, silent⟩
  · -- A worker failed, so the caller has left the setup to it.
    obtain ⟨v', rfl⟩ : ∃ v', u = .returned v' := by
      have admitted := led.admitted
      have aside := idle i (.caller u) apart.symm led.own
      cases u with
      | claim => cases admitted
      | returned v' => exact ⟨v', rfl⟩
      | _ => cases aside
    obtain ⟨rfl, events, -⟩ := accounts.resolve_right fun settled => settled.1 pending
    have other : (Event.turn k (.worker w) reply : Event cfg).isTurnOf i = false := by
      simp [Event.isTurnOf, apart.symm]
    obtain ⟨led', -, -⟩ := led.after?_of_other rfl other
      (System.after?_turn_eq_some.mpr ⟨present, rfl⟩)
    rw [events]
    exact ⟨(led'.returned_run? calm run).own, (led'.commandsIn_eq_nil rfl calm run).2⟩

end System.Led

end

/-- Wherever a step of a setup fails, its own or its worker's, the setup ends in one way, once the
failing thread has taken six more turns at most: the caller is not refused; the status tells of a
fault, and the last error ends with that of the step; whoever waits is sent away, and no address
counts as seen; all subscriptions that were taken are given back; the configuration is recorded if
both of its commands had succeeded, and none is otherwise; and no command is given any more. -/
theorem faults_surface {m mid s : System} {i k : Nat} {setup : Setup} {es fs : List (Event cfg)}
    {reply : (t.request cfg).Reply} (unclaimed : m.Unclaimed)
    (bare : m.cells.subscription = none) (unapplied : m.cells.applied = none)
    (calm : Calm (es ++ fs)) (run : m.run? (.turn i (.caller (.claim setup)) () :: es) = some mid)
    (fails : (t.request cfg).mishap? cfg.target reply = some cause)
    (rest : mid.run? (.turn k t reply :: fs) = some s) (many : 6 ≤ turnsOf k fs) :
    s.threads[i]? = some (.caller (.returned setup.mode.unready)) ∧
      s.cells.status = .faulted ∧
      (∃ e, s.cells.lastError = some e ∧ cause.messages <:+ e.messages) ∧
      s.cells.ready = .abandoned ∧
      s.cells.addressObserved ≠ .set ∧
      s.cells.subscription = none ∧
      (∃ ids : List SubscriptionId,
        m.leased (.turn i (.caller (.claim setup)) () :: es ++ .turn k t reply :: fs) =
          ids.flatMap fun id => [.taken id, .given id]) ∧
      ((∃ name, doneIn es = setup.commands name) → s.cells.applied = setup.configuration) ∧
      ((¬∃ name, doneIn es = setup.commands name) → s.cells.applied = none) ∧
      commandsIn fs = [] := by
  obtain ⟨next, turn, later⟩ := runFrom?_cons_eq_some.mp rest
  obtain ⟨present, rfl⟩ := System.after?_turn_eq_some.mp turn
  have failed : m.run? (.turn i (.caller (.claim setup)) () :: es ++ [.turn k t reply]) =
      some (mid.advance cfg k t reply) := runFrom?_concat_eq_some.mpr ⟨mid, run, turn⟩
  have whole : m.run? (.turn i (.caller (.claim setup)) () :: es ++ [.turn k t reply] ++ fs) =
      some s := runFrom?_append_eq_some.mpr ⟨_, failed, later⟩
  -- The failing thread carries the setup out, so what is recorded and owed can be told.
  have busy := Thread.not_isIdle_of_mishap fails
  obtain ⟨phase, keeps, ledger⟩ :=
    Phase.leases_of_busy unclaimed bare calm.left run present busy
  obtain ⟨holds, others⟩ := phase.holds present busy
  obtain ⟨u, led, accounts⟩ := System.Led.accounts unclaimed unapplied calm.left run
  obtain ⟨f, suffix, stops, ahead, few, alone⟩ :=
    Thread.stops_of_mishap fails (led.mode_of_conclude accounts present busy reply)
  have kept := keeps.step holds reply
  have moved := ledger.transfer (keeps.transfer holds reply)
  rw [Thread.heir, alone] at kept moved
  have going : (t.step cfg mid.cells reply).next.isIdle = false :=
    Bool.eq_false_iff.mpr fun idle => ahead.ne' (stops.turnsLeft_eq_zero.mpr idle)
  obtain ⟨⟨v, there, stopped, through⟩, closed, empty, settled⟩ :=
    (phase.turn present reply).surface (System.getElem?_advance_self present) going
      ⟨stops, kept, fun none => (ahead.ne' none).elim⟩ few moved calm.right later many
  obtain ⟨status, observed, fault⟩ := Outlook.mk.inj closed.shown
  obtain ⟨back, silent⟩ := led.unready accounts present busy holds.pending others stops calm.right
    later there stopped through
  -- No command was carried out in the failing turn or since.
  have done : doneIn (es ++ [.turn k t reply] ++ fs) = doneIn es := by
    have none : doneIn [(.turn k t reply : Event cfg)] = [] := by
      simp [doneIn, Event.done?, Request.done?_of_mishap fails]
    rw [doneIn_append, doneIn_append, none, doneIn_eq_nil silent, List.append_nil, List.append_nil]
  obtain ⟨u', led', accounts'⟩ :=
    System.Led.accounts unclaimed unapplied (calm.insert k t reply) whole
  cases back.symm.trans led'.own
  have accounted := done ▸ accounts'.accounted
  refine ⟨back, status, ⟨f.chain, congrArg (Option.map Fault.chain) fault, suffix⟩,
    closed.settled, ?_, empty, ?_, ?_, accounted.applied_of_not_done, silent⟩
  · rw [show s.cells.addressObserved = .pending from observed]
    decide
  · obtain ⟨ids, notes⟩ := settled
    refine ⟨ids, ?_⟩
    rw [System.leased, System.notedOfAll, notedFrom_append run, notedFrom_cons turn,
      ← List.append_assoc]
    exact notes.trans (List.append_nil _)
  · rintro ⟨name, all⟩
    exact accounted.applied_of_done all

/-- A setup with events and a static configuration. -/
def pinned : Setup :=
  ⟨.events, some ⟨.ofOctets ⟨10, 0, 0, 5⟩, .ofOctets ⟨255, 255, 255, 0⟩, .any, []⟩, false⟩

/-- What its worker is started with. -/
def pinnedJob : Job := ⟨⟨0⟩, pinned.desired, false, 0⟩

/-- After the claim of this setup: everything succeeds until its worker waits for a change. -/
def untilReceive : List (Event {}) :=
  [.turn 0 (.caller (.readGeneration pinned)) (),
    .turn 0 (.caller (.start pinned (.events 0))) (),
    .turn 0 (.caller (.find pinned (.events 0))) (.ok [⟨"eth0", .ethernet, .any, true⟩]),
    .turn 0 (.caller (.subscribe pinned 0 "eth0")) (.ok ⟨0⟩),
    .turn 0 (.caller (.keepSubscription pinned 0 "eth0" ⟨0⟩)) (),
    .turn 0 (.caller (.assign pinned (.events 0 ⟨0⟩) "eth0")) (.ok ()),
    .turn 0 (.caller (.setServers pinned (.events 0 ⟨0⟩) "eth0")) (.ok ()),
    .turn 0 (.caller (.keepConfiguration pinned (.events 0 ⟨0⟩))) (),
    .turn 0 (.caller (.settle pinned (.events 0 ⟨0⟩))) (),
    .turn 0 (.caller (.startWorker pinned 0 ⟨0⟩)) (.ok ()),
    .turn 1 (.worker (.look pinnedJob)) (.ok [])]

/-- The six turns of the worker after its subscription has ended. -/
def afterClosed : List (Event {}) :=
  [.turn 1 (.worker (.checkClosed pinnedJob)) (),
    .turn 1 (.worker (.checkFault pinnedJob (.closed .ethernet))) (),
    .turn 1 (.worker (.conclude pinnedJob (.failed (.closed .ethernet)) .release)) (),
    .turn 1 (.worker (.conclude pinnedJob (.failed (.closed .ethernet)) .keepFault)) (),
    .turn 1 (.worker (.conclude pinnedJob (.failed (.closed .ethernet)) .publish)) (),
    .turn 1 (.worker (.conclude pinnedJob (.failed (.closed .ethernet)) .settle)) ()]

/-- The configuration stays recorded, since both commands had succeeded, and no seventh turn is
needed. -/
theorem faults_surface_closed :
    ∃ mid s : System, ((System.join {} (.call pinned)).run?
        (.turn 0 (.caller (.claim pinned)) () :: untilReceive)) = some mid ∧
      mid.run? (.turn 1 (.worker (.receive pinnedJob)) .closed :: afterClosed) = some s ∧
      s.threads[0]? = some (.caller (.returned .accepted)) ∧
      s.cells.status = .faulted ∧
      (∃ e, s.cells.lastError = some e ∧
        (Fault.closed .ethernet).chain.messages <:+ e.messages) ∧
      s.cells.ready = .abandoned ∧
      s.cells.subscription = none ∧
      s.cells.applied = pinned.configuration := by
  have unclaimed : (System.join {} (.call pinned)).Unclaimed := ⟨.fresh, by decide⟩
  obtain ⟨mid, run⟩ : ∃ mid, (System.join {} (.call pinned)).run?
    (.turn 0 (.caller (.claim pinned)) () :: untilReceive) = some mid := ⟨_, rfl⟩
  obtain ⟨s, rest⟩ : ∃ s, mid.run? (.turn 1 (.worker (.receive pinnedJob)) .closed ::
      afterClosed) = some s := by
    cases run
    exact ⟨_, rfl⟩
  obtain ⟨back, status, fault, ready, -, returned, -, applied, -⟩ :=
    faults_surface unclaimed rfl rfl (by decide) run rfl rest (by decide)
  exact ⟨mid, s, run, rest, back, status, fault, ready, returned, applied ⟨"eth0", rfl⟩⟩

end Uplink.Readiness
