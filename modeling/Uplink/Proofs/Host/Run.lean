import Uplink.Host.Watcher
import Uplink.Proofs.Entries
import Uplink.Proofs.Runs

/-!
# Runs of a host's network

The events of a host's network, with listeners that come and go, a machine that changes and watchers
that take one step at a time, and what they leave alone.

## Main definitions

- `Event`: one thing that happens; `System.after?` is what it leads to.
- `rounds`: how many rounds a watcher completes.
- `System.new`: nobody has subscribed yet.

## Main results

- `System.step_iff_after?`, `System.reachable_iff_run?`: events are the steps, and runs the
  sequences of steps.
- `System.watcher_after?`: only its own turn moves a watcher.
- `System.told_after?`: what was told stays told.
-/

namespace Uplink.Host

/-- One thing that happens to a host's network. -/
inductive Event where
  /-- The `i`-th watcher, which stands at `w`, takes its step. -/
  | watch (i : Nat) (w : Watcher)
  | draw
  | register (id : SubscriptionId) (start : Except ErrorChain Unit)
  | unsubscribe (id : SubscriptionId)
  | change (machine : List MachineInterface)
  | command (c : NetworkCommand)

/-- Whether the next step of a watcher is the end of a round: everyone was told of everything. -/
def Watcher.endsRound : Watcher → Bool
  | tell _ _ [] [] => true
  | _ => false

/-- Whether an event completes a round of the `i`-th watcher. -/
def Event.isRound (i : Nat) : Event → Bool
  | watch j w => i == j && w.endsRound
  | _ => false

/-- How many rounds the `i`-th watcher completes during these events. -/
def rounds (i : Nat) (es : List Event) : Nat := es.countP (·.isRound i)

@[simp] theorem rounds_nil (i : Nat) : rounds i [] = 0 := rfl

/-- A turn of the watcher itself is a round if it ends one. -/
theorem rounds_watch (i : Nat) (w : Watcher) (es : List Event) :
    rounds i (.watch i w :: es) = rounds i es + if w.endsRound then 1 else 0 := by
  simp [rounds, List.countP_cons, Event.isRound]

/-- No other event is a round. -/
theorem rounds_of_ne {i : Nat} {e : Event} (other : ∀ w, e ≠ .watch i w) (es : List Event) :
    rounds i (e :: es) = rounds i es := by
  have no : e.isRound i = false := by
    cases e with
    | watch j w =>
      have apart : i ≠ j := by
        rintro rfl
        exact other w rfl
      simp [Event.isRound, apart]
    | _ => rfl
  simp [rounds, no]

namespace System

/-- A new network on a machine. -/
def new (mode : HostMode) (machine : List MachineInterface) : System :=
  { network := { mode }, machine }

/-- What an event leads to; the turn of a watcher that does not stand there, or a subscription under
an identifier that was not drawn, is no event. -/
def after? (p : Probes) (s : System) : Event → Option System
  | .watch i w => if s.watchers[i]? = some w then some (s.advance p i w) else none
  | .draw => some s.draw
  | .register id start => if id ∈ s.drawn then some (s.register id start) else none
  | .unsubscribe id => some { s with network := s.network.unsubscribe id }
  | .change machine => some { s with machine }
  | .command c => some { s with network := s.network.note c }

/-- What a list of events leads to. -/
abbrev run? (p : Probes) (s : System) (es : List Event) : Option System := runFrom? (after? p) s es

/-- The systems on the way. -/
abbrev states (p : Probes) (s : System) (es : List Event) : List System :=
  statesFrom (after? p) s es

/-- Who is registered. -/
def Listens (s : System) (id : SubscriptionId) : Prop := id ∈ s.network.table.subscribers

instance (s : System) (id : SubscriptionId) : Decidable (s.Listens id) :=
  inferInstanceAs (Decidable (id ∈ s.network.table.subscribers))

variable {p : Probes} {s s' : System}

theorem after?_watch_eq_some {i : Nat} {w : Watcher} :
    s.after? p (.watch i w) = some s' ↔ s.watchers[i]? = some w ∧ s.advance p i w = s' := by
  simp [after?]

theorem after?_register_eq_some {id : SubscriptionId} {start : Except ErrorChain Unit} :
    s.after? p (.register id start) = some s' ↔ id ∈ s.drawn ∧ s.register id start = s' := by
  simp [after?]

/-- Events are the steps of a system. -/
theorem step_iff_after? : Step p s s' ↔ ∃ e, s.after? p e = some s' := by
  constructor
  · rintro (⟨i, w, present⟩ | _ | ⟨id, drawn, start⟩ | ⟨id⟩ | ⟨machine⟩ | ⟨c⟩)
    · exact ⟨.watch i w, after?_watch_eq_some.mpr ⟨present, rfl⟩⟩
    · exact ⟨.draw, rfl⟩
    · exact ⟨.register id start, after?_register_eq_some.mpr ⟨drawn, rfl⟩⟩
    · exact ⟨.unsubscribe id, rfl⟩
    · exact ⟨.change machine, rfl⟩
    · exact ⟨.command c, rfl⟩
  · rintro ⟨e, after⟩
    cases e with
    | watch i w =>
      obtain ⟨present, rfl⟩ := after?_watch_eq_some.mp after
      exact .watch s i w present
    | register id start =>
      obtain ⟨drawn, rfl⟩ := after?_register_eq_some.mp after
      exact .register s id drawn start
    | draw =>
      cases after
      exact .draw s
    | unsubscribe id =>
      cases after
      exact .unsubscribe s id
    | change machine =>
      cases after
      exact .change s machine
    | command c =>
      cases after
      exact .command s c

/-- Runs are the sequences of steps. -/
theorem reachable_iff_run? :
    Relation.ReflTransGen (Step p) s s' ↔ ∃ es, s.run? p es = some s' :=
  reachable_iff_runFrom? step_iff_after?

/-! ## What events leave alone -/

@[simp] theorem watchers_advance (s : System) (i : Nat) (w : Watcher) :
    (s.advance p i w).watchers =
      s.watchers.set i (w.step s.network.table (s.seen p)).next := rfl

@[simp] theorem told_advance (s : System) (i : Nat) (w : Watcher) :
    (s.advance p i w).told = s.told ++ (w.step s.network.table (s.seen p)).call.toList := rfl

/-- A registration moves no watcher. -/
theorem getElem?_register {i : Nat} {w : Watcher} (present : s.watchers[i]? = some w)
    (id : SubscriptionId) (start : Except ErrorChain Unit) :
    (s.register id start).watchers[i]? = some w := by
  simp only [register]
  split
  · exact getElem?_append_of_some present
  · exact present

/-- Only its own turn moves a watcher. -/
theorem watcher_after? {e : Event} {i : Nat} {w : Watcher} (present : s.watchers[i]? = some w)
    (other : ∀ v, e ≠ .watch i v) (after : s.after? p e = some s') :
    s'.watchers[i]? = some w := by
  cases e with
  | watch j v =>
    obtain ⟨there, rfl⟩ := after?_watch_eq_some.mp after
    have apart : j ≠ i := by
      rintro rfl
      exact other v rfl
    rw [watchers_advance, List.getElem?_set_ne apart]
    exact present
  | register id start =>
    obtain ⟨drawn, rfl⟩ := after?_register_eq_some.mp after
    exact getElem?_register present id start
  | draw =>
    cases after
    exact present
  | unsubscribe id =>
    cases after
    exact present
  | change machine =>
    cases after
    exact present
  | command c =>
    cases after
    exact present

/-- What was told stays told. -/
theorem told_after? {e : Event} (after : s.after? p e = some s') : s.told <+: s'.told := by
  cases e with
  | watch j v =>
    obtain ⟨there, rfl⟩ := after?_watch_eq_some.mp after
    exact List.prefix_append ..
  | register id start =>
    obtain ⟨drawn, rfl⟩ := after?_register_eq_some.mp after
    exact List.prefix_refl _
  | draw =>
    cases after
    exact List.prefix_refl _
  | unsubscribe id =>
    cases after
    exact List.prefix_refl _
  | change machine =>
    cases after
    exact List.prefix_refl _
  | command c =>
    cases after
    exact List.prefix_refl _

/-- What was told stays told for a whole run. -/
theorem told_run? {es : List Event} (run : s.run? p es = some s') : s.told <+: s'.told :=
  runFrom?_preserves (fun _ => True) (fun m => s.told <+: m.told)
    (fun kept _ after => kept.trans (told_after? after)) run (by simp) (List.prefix_refl _)

end System

end Uplink.Host
