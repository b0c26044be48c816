import Uplink.Proofs.Readiness.Itinerary
import Uplink.Proofs.Readiness.Leading

/-!
# The configuration that was applied

The cell of the applied configuration is written once in a setup, after both of its commands have
succeeded. So what it holds can be told from the commands that were carried out, and both from the
place of the caller: nothing is recorded before the second command, and everything is afterwards.
A setup that ends in between leaves a cell that says as much as one that has not begun.

## Main definitions

- `Setup.Applied`, `Setup.Unapplied`: both commands were carried out, and the cell holds the
  configuration; or at most one was, and it is empty.
- `Caller.Accounts`: what it holds, and what was carried out, when a caller stands at its place.

## Main results

- `Caller.Accounts.step`: one turn of the caller.
- `System.Led.accounts`: what the cell holds at any time after a setup was admitted.
- `System.faulted_of_not_done`: a setup that returns without having carried both commands out has a
  fault to tell, unless it was refused.
-/

namespace Uplink.Readiness

variable {cfg : Config} {c d : Cells} {s : Setup} {done : List NetworkCommand}

namespace Setup

/-- Both commands were carried out, and the configuration is recorded. -/
def Applied (s : Setup) (c : Cells) (done : List NetworkCommand) : Prop :=
  c.applied = s.configuration ∧ ∃ name, done = s.commands name

/-- At most one command was carried out, and nothing is recorded. -/
def Unapplied (s : Setup) (c : Cells) (done : List NetworkCommand) : Prop :=
  c.applied = none ∧ (done = [] ∨ ∃ name, done = [Caller.addressCommand s name])

/-- The cell holds the configuration if both commands were carried out, and is empty otherwise. -/
def Accounted (s : Setup) (c : Cells) (done : List NetworkCommand) : Prop :=
  s.Applied c done ∨ s.Unapplied c done

namespace Accounted

variable (accounted : s.Accounted c done)

include accounted

/-- The cell holds the configuration where both commands were carried out. -/
theorem applied_of_done {name : String} (all : done = s.commands name) :
    c.applied = s.configuration := by
  obtain ⟨applied, -⟩ | ⟨-, rfl | ⟨name', rfl⟩⟩ := accounted
  · exact applied
  · rw [s.commands_eq] at all
    cases all
  · rw [s.commands_eq] at all
    cases (List.cons.inj all).2

/-- It is empty where they were not. -/
theorem applied_of_not_done (few : ¬∃ name, done = s.commands name) : c.applied = none := by
  obtain ⟨-, all⟩ | ⟨empty, -⟩ := accounted
  · exact (few all).elim
  · exact empty

end Accounted

end Setup

/-- A setup may end this way before its interface is configured; its fault, if it has one, is kept
before it is published. -/
def Ending.BreaksOff (c : Cells) : Ending → Stage → Prop
  | noInterface _, _ => True
  | failed _, .release | failed _, .keepFault => True
  | failed _, _ => c.fault.isSome = true
  | _, _ => False

theorem Ending.BreaksOff.spare {e : Ending} {stage : Stage} (breaks : e.BreaksOff c stage)
    (spared : c.Spared d) : e.BreaksOff d stage := by
  cases e with
  | failed f =>
    cases stage with
    | publish | settle => exact spared.fault breaks
    | _ => trivial
  | _ => exact breaks

namespace Caller

/-- What the cell holds, and what was carried out, when a caller stands at its place. A caller that
is back has left its setup to a worker, or has settled the signal, and tells if it broke off. -/
def Accounts (s : Setup) (c : Cells) (done : List NetworkCommand) : Caller → Prop
  | claim _ => False
  | readGeneration s' | subscribe s' .. | keepSubscription s' .. =>
    s' = s ∧ s.mode = .events ∧ c.applied = none ∧ done = []
  | start s' a | find s' a => s' = s ∧ s.mode = a.mode ∧ c.applied = none ∧ done = []
  | assign s' r _ => s' = s ∧ s.mode = r.mode ∧ c.applied = none ∧ done = []
  | setServers s' r name =>
    s' = s ∧ s.mode = r.mode ∧ c.applied = none ∧ done = [addressCommand s name]
  | keepConfiguration s' r =>
    s' = s ∧ s.mode = r.mode ∧ ∃ name, done = s.commands name
  | settle s' r => s' = s ∧ s.mode = r.mode ∧ s.Applied c done
  | startWorker s' .. => s' = s ∧ s.mode = .events ∧ s.Applied c done
  | checkToken s' | poll s' | pollPause s' | observe s' | checkTokenForClock s' | readClock s'
  | clockPause s' => s' = s ∧ s.Applied c done
  | conclude s' e stage => s' = s ∧ (s.Applied c done ∨ s.Unapplied c done ∧ e.BreaksOff c stage)
  | returned v =>
    v = .accepted ∧ s.mode = .events ∧ s.Applied c done ∨
      c.ready ≠ .pending ∧ (s.Applied c done ∨ s.Unapplied c done ∧
        ((∃ target found, v = .refused (.noInterface target found)) ∨ c.fault.isSome = true))

namespace Accounts

variable {t : Caller}

/-- What others leave of the cells is enough. -/
theorem spare (accounts : t.Accounts s c done) (spared : c.Spared d) : t.Accounts s d done := by
  cases t with
  | returned v =>
    simp only [Accounts, Setup.Applied, Setup.Unapplied, spared.applied] at accounts ⊢
    refine accounts.imp_right fun settled => ⟨spared.settled settled.1, settled.2.imp_right ?_⟩
    exact fun broken => ⟨broken.1, broken.2.imp_right spared.fault⟩
  | conclude s' e stage =>
    simp only [Accounts, Setup.Applied, Setup.Unapplied, spared.applied] at accounts ⊢
    exact ⟨accounts.1, accounts.2.imp_right fun broken => ⟨broken.1, broken.2.spare spared⟩⟩
  | claim s' => exact accounts
  | _ => simpa only [Accounts, Setup.Applied, spared.applied] using accounts

/-- A caller that is back leaves the cell in order. -/
theorem accounted {v : Verdict} (accounts : (returned v).Accounts s c done) :
    s.Accounted c done := by
  obtain ⟨-, -, applied⟩ | ⟨-, applied | ⟨unapplied, -⟩⟩ := accounts
  · exact .inl applied
  · exact .inl applied
  · exact .inr unapplied

/-- A turn that asks for no command carries none out. -/
theorem append_done? {q : Request} {reply : q.Reply} (silent : q.command? = none) :
    done ++ (q.done? reply).toList = done := by
  rw [Request.done?_eq_none silent, Option.toList_none, List.append_nil]

/-- One turn of the caller. -/
theorem step (accounts : t.Accounts s c done) (reply : (t.request cfg).Reply) :
    (t.step cfg c reply).next.Accounts s (t.step cfg c reply).cells
      (done ++ ((t.request cfg).done? reply).toList) := by
  cases t with
  | claim s' => exact accounts.elim
  | readGeneration s' =>
    obtain ⟨rfl, mode, empty, rfl⟩ := accounts
    exact ⟨rfl, mode, empty, rfl⟩
  | start s' a =>
    obtain ⟨rfl, mode, empty, rfl⟩ := accounts
    exact ⟨rfl, mode, empty, rfl⟩
  | find s' a =>
    obtain ⟨rfl, mode, empty, rfl⟩ := accounts
    cases reply with
    | error cause => exact ⟨rfl, .inr ⟨⟨empty, .inl rfl⟩, trivial⟩⟩
    | ok interfaces =>
      simp only [Caller.step, stepFind]
      split
      · exact ⟨rfl, .inr ⟨⟨empty, .inl rfl⟩, trivial⟩⟩
      · cases a with
        | events generation => exact ⟨rfl, mode, empty, rfl⟩
        | polling => exact ⟨rfl, mode, empty, rfl⟩
  | subscribe s' generation name =>
    obtain ⟨rfl, mode, empty, rfl⟩ := accounts
    cases reply with
    | error cause => exact ⟨rfl, .inr ⟨⟨empty, .inl rfl⟩, trivial⟩⟩
    | ok id => exact ⟨rfl, mode, empty, rfl⟩
  | keepSubscription s' generation name id =>
    obtain ⟨rfl, mode, empty, rfl⟩ := accounts
    exact ⟨rfl, mode, empty, rfl⟩
  | assign s' r name =>
    obtain ⟨rfl, mode, empty, rfl⟩ := accounts
    cases reply with
    | error cause => exact ⟨rfl, .inr ⟨⟨empty, .inl rfl⟩, trivial⟩⟩
    | ok _ => exact ⟨rfl, mode, empty, rfl⟩
  | setServers s' r name =>
    obtain ⟨rfl, mode, empty, rfl⟩ := accounts
    cases reply with
    | error cause => exact ⟨rfl, .inr ⟨⟨empty, .inr ⟨name, rfl⟩⟩, trivial⟩⟩
    | ok _ => exact ⟨rfl, mode, name, (s'.commands_eq name).symm⟩
  | keepConfiguration s' r =>
    rw [append_done? rfl]
    obtain ⟨rfl, mode, all⟩ := accounts
    exact ⟨rfl, mode, rfl, all⟩
  | settle s' r =>
    rw [append_done? rfl]
    obtain ⟨rfl, mode, applied⟩ := accounts
    cases r with
    | events generation id => exact ⟨rfl, mode, applied⟩
    | polling => exact ⟨rfl, applied⟩
  | startWorker s' generation id =>
    rw [append_done? rfl]
    obtain ⟨rfl, mode, applied⟩ := accounts
    cases reply with
    | error cause => exact ⟨rfl, .inl applied⟩
    | ok _ => exact .inl ⟨rfl, mode, applied⟩
  | checkToken s' | checkTokenForClock s' =>
    rw [append_done? rfl]
    cases reply with
    | false => exact accounts
    | true => exact ⟨accounts.1, .inl accounts.2⟩
  | poll s' =>
    rw [append_done? rfl]
    obtain ⟨rfl, applied⟩ := accounts
    cases reply with
    | error cause => exact ⟨rfl, .inl applied⟩
    | ok interfaces =>
      simp only [Caller.step, stepPoll]
      split <;> exact ⟨rfl, applied⟩
  | pollPause s' | clockPause s' =>
    rw [append_done? rfl]
    exact accounts
  | observe s' =>
    rw [append_done? rfl]
    obtain ⟨rfl, applied⟩ := accounts
    simp only [Caller.step, stepObserve]
    split
    · exact ⟨rfl, applied⟩
    · exact ⟨rfl, .inl applied⟩
  | readClock s' =>
    rw [append_done? rfl]
    obtain ⟨rfl, applied⟩ := accounts
    simp only [Caller.step, stepClock]
    split
    · exact ⟨rfl, .inl applied⟩
    · exact ⟨rfl, applied⟩
  | conclude s' e stage =>
    rw [append_done? rfl]
    obtain ⟨rfl, accounted⟩ := accounts
    cases stage with
    | release | publish => cases e <;> exact ⟨rfl, accounted⟩
    | keepFault =>
      cases e with
      | failed f => exact ⟨rfl, accounted.imp_right fun broken => ⟨broken.1, rfl⟩⟩
      | _ => exact ⟨rfl, accounted⟩
    | settle =>
      refine .inr ⟨e.settle_ne_pending c.ready, accounted.imp_right fun broken => ⟨broken.1, ?_⟩⟩
      cases e with
      | noInterface found => exact .inl ⟨_, found, rfl⟩
      | failed f => exact .inr broken.2
      | _ => exact broken.2.elim
  | returned v =>
    rw [append_done? rfl]
    exact accounts

end Accounts

end Caller

namespace System

variable {m s' : System} {i : Nat} {es : List (Event cfg)}

/-- What the cell of the applied configuration holds after a setup was admitted, by the commands
that were carried out. -/
theorem Led.accounts (unclaimed : m.Unclaimed) (unapplied : m.cells.applied = none)
    (calm : Calm es) (run : m.run? (.turn i (.caller (.claim s)) () :: es) = some s') :
    ∃ t, s'.Led i t ∧ t.Accounts s s'.cells (doneIn es) := by
  obtain ⟨next, after, rest⟩ := runFrom?_cons_eq_some.mp run
  obtain ⟨present, rfl⟩ := System.after?_turn_eq_some.mp after
  have started : ((Caller.claim s).step cfg m.cells ()).next.Accounts s
      ((Caller.claim s).step cfg m.cells ()).cells [] := by
    simp only [Caller.step, Caller.stepClaim, unclaimed.untouched.free]
    cases mode : s.mode with
    | events => exact ⟨rfl, mode, unapplied, rfl⟩
    | polling => exact ⟨rfl, mode, unapplied, rfl⟩
  exact (Led.of_claim unclaimed present).run? (fun _ => True) Event.done?
    (P := fun _ c t done => t.Accounts s c done) started (Event.done?_eq_none _)
    (fun reply accounts _ => accounts.step reply) (fun accounts spared => accounts.spare spared)
    (fun _ _ => trivial) calm rest

/-- A setup that is over, was not refused and did not carry both commands out has a fault to
tell. -/
theorem faulted_of_not_done {v : Verdict} (unclaimed : m.Unclaimed)
    (unapplied : m.cells.applied = none) (calm : Calm es)
    (run : m.run? (.turn i (.caller (.claim s)) () :: es) = some s')
    (back : s'.threads[i]? = some (.caller (.returned v))) (accepted : ∀ e, v ≠ .refused e)
    (few : ¬∃ name, doneIn es = s.commands name) :
    s'.cells.status = .faulted ∧ s'.cells.lastError.isSome = true := by
  obtain ⟨t, led, accounts⟩ := Led.accounts unclaimed unapplied calm run
  cases led.own.symm.trans back
  obtain ⟨-, -, applied⟩ | ⟨settled, applied | ⟨-, ⟨target, found, refused⟩ | fault⟩⟩ := accounts
  · exact (few applied.2).elim
  · exact (few applied.2).elim
  · exact (accepted _ refused).elim
  obtain ⟨next, after, rest⟩ := runFrom?_cons_eq_some.mp run
  obtain ⟨present, rfl⟩ := System.after?_turn_eq_some.mp after
  have phase := (Phase.turn_of_claim present unclaimed.untouched unclaimed.idle ()).run? calm rest
  cases phase with
  | vacant fresh idle => exact (settled (congrArg Cells.ready fresh)).elim
  | held k t there holds idle => exact (settled holds.pending).elim
  | closed e closed idle =>
    obtain ⟨status, -, kept⟩ := Outlook.mk.inj closed.shown
    rw [kept] at fault
    refine ⟨status.trans (e.isSome_fault?.mp fault), ?_⟩
    rw [Cells.lastError, Option.isSome_map, kept]
    exact fault

end System

end Uplink.Readiness
