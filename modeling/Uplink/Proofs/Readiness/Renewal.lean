import Uplink.Proofs.Readiness.Afterlife
import Uplink.Proofs.Readiness.Recount
import Uplink.Proofs.Readiness.Subscriptions

/-!
# A reset gives back a new coordinator

What a reset leaves behind differs from a new coordinator in two ways only: the count of resets does
not stand at zero, and workers from before may still be around. Neither can be told from outside.
Counts are compared with one another and never with a number, so one may as well count from the
reset on; and the workers from before are superseded, so they are powerless.

That makes a simulation in which the two sides are equal, not only related: drop the threads from
before, count resets from this one on, and what is left takes the same turns as a new coordinator in
the same surroundings, turn by turn.

## Main definitions

- `Act`, `World.after?`: what may happen after a reset, to a coordinator and in its surroundings.
- `World.Parted`: the first threads are left over from before, and superseded.
- `Bare`: the one cell that the eras say nothing of, the configuration that was applied, is empty
  when it should be.

## Main results

- `World.stray_eq`: a thread from before moves itself, and that is all.
- `World.since_run?`: what happens after a reset happens to a coordinator without such threads.
- `Free.cells_since`: the cells after a reset are those of a new coordinator, but for the count.
- `reset_renews`: a reset gives back a new coordinator, and workers that are powerless.
-/

namespace Uplink.Readiness

variable {cfg : Config} {c : Cells} {g : UInt64} {E : Type}

/-! ## What may happen after a reset -/

/-- Whether a request does something to the outside, or starts a thread. -/
def Request.isOrder : Request → Bool
  | subscribe | command _ | startWorker _ => true
  | _ => false

/-- Whether a dealing does something to the outside, or starts a thread. -/
def Dealing.isOrder : Dealing → Bool
  | asked q _ => q.isOrder
  | gaveBack _ => true

/-- The same surroundings, where the next change that a subscription is told of, or the lack of one,
is given. -/
def Outside.telling (o : Outside E) (told : Reception) : Outside E :=
  { o with receive := fun e _ _ => (told, e) }

/-- Looking at the interfaces and reading the clock changes nothing outside. -/
structure Outside.Steady (o : Outside E) : Prop where
  looks : ∀ e, (o.listInterfaces e).2 = e
  reads : ∀ e, (o.readClock e).2 = e

/-- What may happen to a coordinator on which some threads have been left over from before. -/
inductive Act (E : Type) where
  /-- The turn of the `i`-th thread that has come since. -/
  | turn (i : Nat)
  /-- The turn of the `i`-th thread from before, if there is one. Its subscription is its own: if it
  waits for a change, then this is what it is told. -/
  | stray (i : Nat) (told : Reception)
  | enter (n : Newcomer)
  /-- The surroundings change by themselves. -/
  | drift (e : E)

namespace World

/-- The world after the turn of a thread from before, the `i`-th, which stands at `t`. Its looks, its
readings and its waiting are its own business, but whatever else it deals is put on record. -/
def stray (cfg : Config) (o : Outside E) (told : Reception) (w : World E) (i : Nat) (t : Thread) :
    World E :=
  let next := w.turn cfg (o.telling told) i t
  { next with
    dealt := w.dealt ++ (next.dealt.drop w.dealt.length).filter fun (_, d) => d.isOrder }

/-- What happens leads to, on a coordinator with so many threads from before. -/
def after? (cfg : Config) (o : Outside E) (old : Nat) (w : World E) : Act E → Option (World E)
  | .turn i => w.turn? cfg o (old + i)
  | .stray i told => some (((w.system.threads.take old)[i]?.map (w.stray cfg o told i)).getD w)
  | .enter n => some { w with system := w.system.join n }
  | .drift e => some { w with outside := e }

/-- What a list of acts leads to. -/
abbrev run? (cfg : Config) (o : Outside E) (old : Nat) (w : World E) (acts : List (Act E)) :
    Option (World E) := runFrom? (after? cfg o old) w acts

/-- Whether an act is no reset that comes round to the count of a worker from before. -/
def isTimely (old : Nat) (w : World E) : Act E → Bool
  | .turn i => w.system.threads[old + i]? != some (.reset .supersede) ||
    (w.system.threads.take old).all (!·.isLapped w.system.cells.generation)
  | _ => true

/-- No reset comes round to the count of a worker from before. -/
abbrev Timely (cfg : Config) (o : Outside E) (old : Nat) (w : World E) (acts : List (Act E)) :
    Prop := allAlong (after? cfg o old) (isTimely old) w acts = true

end World

/-! ## Threads from before -/

/-- Whether a thread has nothing left to do but to watch, or to find out that it was superseded. -/
def Thread.isLeftOver : Thread → Bool
  | caller t => t.verdict?.isSome
  | reset r => r == .done
  | _ => true

/-- A turn of a thread that is left over changes nothing, and leaves it so. -/
theorem Thread.step_of_isLeftOver {t : Thread} (left : t.isLeftOver = true)
    (aside : t.IsAside c.generation) (reply : (t.request cfg).Reply) :
    (t.step cfg c reply).cells = c ∧ (t.step cfg c reply).unsubscribed = none ∧
      (t.step cfg c reply).next.isLeftOver = true ∧
      (t.step cfg c reply).next.IsAside c.generation ∧ t.started? cfg reply = none := by
  have other (r : Reset) (is : t = .reset r) : r = .done := by
    subst is
    simpa [isLeftOver] using left
  have apart (s : Setup) : t ≠ .caller (.claim s) := by
    rintro rfl
    cases left
  obtain ⟨cells, next, -, alone, -⟩ := step_of_isAside aside other (.inr apart) reply
  refine ⟨cells, ?_, ?_, next, alone⟩
  · rw [t.unsubscribed_step]
    cases t with
    | caller t =>
      cases t with
      | returned v => rfl
      | _ => cases left
    | worker w => rw [releases, (w.written_of_writesLeft aside.1 c).2]; rfl
    | reset r =>
      obtain rfl := other r rfl
      rfl
    | watcher t => rfl
  · cases t with
    | caller t =>
      cases t with
      | returned v => rfl
      | _ => cases left
    | reset r =>
      obtain rfl := other r rfl
      rfl
    | _ => rfl

/-- It gives no orders. -/
theorem Thread.isOrder_request_of_isLeftOver {t : Thread} (left : t.isLeftOver = true) :
    (t.request cfg).isOrder = false := by
  cases t with
  | caller t =>
    cases t with
    | returned v => rfl
    | _ => cases left
  | worker w => cases w <;> rfl
  | reset r => rfl
  | watcher t => cases t <;> rfl

/-- What is answered to a request that is no order leaves the surroundings as they are, if what is
told is given. -/
theorem Outside.answer_telling {o : Outside E} (steady : o.Steady) (told : Reception) (e : E)
    {q : Request} (question : q.isOrder = false) : ((o.telling told).answer e q).2 = e := by
  cases q with
  | listInterfaces => exact steady.looks e
  | readClock => exact steady.reads e
  | subscribe | command => cases question
  | _ => rfl

namespace World

variable {o : Outside E} {w w' : World E} {old i : Nat} {t : Thread} {told : Reception}

/-- The first threads are left over from before, and aside. -/
structure Parted (old : Nat) (w : World E) : Prop where
  bound : old ≤ w.system.threads.length
  leftOver : ∀ t ∈ w.system.threads.take old,
    t.isLeftOver = true ∧ t.IsAside w.system.cells.generation

/-- The turn of a thread that is left over moves that thread, and that is all. -/
theorem stray_eq (cfg : Config) (i : Nat) (told : Reception) (steady : o.Steady)
    (left : t.isLeftOver = true) (aside : t.IsAside w.system.cells.generation) :
    ∃ u : Thread, u.isLeftOver = true ∧ u.IsAside w.system.cells.generation ∧
      w.stray cfg o told i t =
        { w with system := { w.system with threads := w.system.threads.set i u } } := by
  have question : (t.request cfg).isOrder = false := t.isOrder_request_of_isLeftOver left
  have calm := Outside.answer_telling steady told w.outside question
  obtain ⟨cells, silent, next, aside', alone⟩ := t.step_of_isLeftOver left aside
    ((o.telling told).answer w.outside (t.request cfg)).1
  refine ⟨_, next, aside', ?_⟩
  have unheard : ((dealings t w.system.cells
      ((o.telling told).answer w.outside (t.request cfg)).1).map fun d => (i, d)).toList.filter
        (fun (_, d) => d.isOrder) = [] := by
    simp only [dealings, silent]
    split
    · rfl
    · simp [Dealing.isOrder, question]
  simp only [stray, turn, System.advance, cells, silent, calm, alone, Outside.release,
    List.drop_left, unheard, Option.map_none, Option.toList_none, List.append_nil]

/-- Seen from the reset on, nothing has happened. -/
theorem since_stray (u : Thread) (inside : i < old) :
    since old g { w with system := { w.system with threads := w.system.threads.set i u } } =
      w.since old g := by
  simp only [since, List.drop_set_of_lt inside]

theorem Parted.stray (parted : Parted old w) {u : Thread} (left : u.isLeftOver = true)
    (aside : u.IsAside w.system.cells.generation) :
    Parted old { w with system := { w.system with threads := w.system.threads.set i u } } := by
  refine ⟨by simpa using parted.bound, fun v mem => ?_⟩
  rw [List.take_set] at mem
  rcases List.mem_or_eq_of_mem_set mem with old | rfl
  · exact parted.leftOver v old
  · exact ⟨left, aside⟩

/-- Whatever happens, the threads from before stay left over and aside. -/
theorem Parted.after? (parted : Parted old w) (steady : o.Steady) {a : Act E}
    (timely : w.isTimely old a = true) (after : w.after? cfg o old a = some w') :
    Parted old w' := by
  cases a with
  | drift e =>
    cases after
    exact ⟨parted.bound, parted.leftOver⟩
  | enter n =>
    cases after
    refine ⟨?_, ?_⟩
    · rw [System.threads_join, List.length_append]
      exact Nat.le_add_right_of_le parted.bound
    · rw [System.threads_join, List.take_append_of_le_length parted.bound]
      exact parted.leftOver
  | stray i told =>
    simp only [World.after?, Option.some.injEq] at after
    subst after
    cases present : (w.system.threads.take old)[i]? with
    | none => exact parted
    | some t =>
      obtain ⟨left, aside⟩ := parted.leftOver t (List.mem_of_getElem? present)
      obtain ⟨u, left', aside', same⟩ := stray_eq cfg i told steady left aside
      rw [Option.map_some, Option.getD_some, same]
      exact parted.stray left' aside'
  | turn i =>
    obtain ⟨t, present, rfl⟩ := turn?_eq_some.mp after
    have bound : old ≤ (w.turn cfg o (old + i) t).system.threads.length := by
      simp only [turn, System.threads_advance, List.length_append, List.length_set]
      exact Nat.le_add_right_of_le parted.bound
    refine ⟨bound, ?_⟩
    simp only [turn, System.threads_advance, System.cells_advance, t.cells_step,
      t.generation_written]
    rw [List.take_append_of_le_length (by simpa using parted.bound), List.take_set_of_le (by omega)]
    intro u mem
    obtain ⟨left, aside⟩ := parted.leftOver u mem
    refine ⟨left, ?_⟩
    split
    · rename_i counts
      subst counts
      simp only [isTimely, present, bne_self_eq_false, Bool.false_or] at timely
      exact aside.succ (by simpa using List.all_eq_true.mp timely u mem)
    · exact aside

/-- An act leads, seen from the reset on, to what it leads to on a coordinator that has no threads
from before. -/
theorem since_after? (cfg : Config) (g : UInt64) (parted : Parted old w) (steady : o.Steady)
    (a : Act E) :
    (w.after? cfg o old a).map (since old g) = (w.since old g).after? cfg o 0 a := by
  cases a with
  | drift e => rfl
  | enter n =>
    have thread : n.thread.since g = n.thread := by cases n <;> rfl
    simp only [World.after?, since, System.join, Option.map_some,
      List.drop_append_of_le_length parted.bound, List.map_append, List.map_singleton, thread]
  | stray i told =>
    simp only [World.after?, Option.map_some, List.take_zero, List.getElem?_nil, Option.map_none,
      Option.getD_none]
    cases present : (w.system.threads.take old)[i]? with
    | none => rfl
    | some t =>
      obtain ⟨left, aside⟩ := parted.leftOver t (List.mem_of_getElem? present)
      obtain ⟨u, -, -, same⟩ := stray_eq cfg i told steady left aside
      have inside : i < old := (getElem?_take_eq_some.mp present).1
      rw [Option.map_some, Option.getD_some, same, since_stray u inside]
  | turn i =>
    have there : (w.since old g).system.threads[i]? =
        w.system.threads[old + i]?.map (Thread.since g) := by
      simp only [since, List.getElem?_map, List.getElem?_drop]
    simp only [World.after?, turn?, Nat.zero_add, there, Option.map_map]
    exact congrArg (Option.map · _) (funext fun t => since_turn o parted.bound)

/-- Whatever happens after a reset happens to a coordinator that has no threads from before. -/
theorem since_run? (parted : Parted old w) (steady : o.Steady) {acts : List (Act E)}
    (timely : Timely cfg o old w acts) :
    (w.run? cfg o old acts).map (since old g) = (w.since old g).run? cfg o 0 acts := by
  induction acts generalizing w with
  | nil => rfl
  | cons a acts ih =>
    have first := since_after? cfg g parted steady a
    simp only [run?, runFrom?]
    rw [← first]
    cases after : w.after? cfg o old a with
    | none => rfl
    | some next =>
      obtain ⟨now, later⟩ := (allAlong_cons after).mp timely
      exact ih (parted.after? steady now after) later

/-- If there are fewer acts than there are counts left, no reset comes round to the count of a worker
from before. -/
theorem timely_of_few {n : Nat} (counted : w.system.Counted n) {acts : List (Act E)}
    (few : n + acts.length < UInt64.size) : Timely cfg o old w acts := by
  induction acts generalizing w n with
  | nil => rfl
  | cons a acts ih =>
    rw [List.length_cons] at few
    simp only [Timely, allAlong, Bool.and_eq_true]
    constructor
    · cases a with
      | turn i =>
        have unlapped : w.system.isTimely
            (.turn (old + i) (.reset .supersede) () : Event cfg) = true :=
          counted.isTimely (show n + 1 < UInt64.size by omega)
        refine Bool.or_eq_true_iff.mpr (.inr (List.all_eq_true.mpr fun t mem => ?_))
        exact List.all_eq_true.mp unlapped t (List.mem_of_mem_take mem)
      | _ => rfl
    · cases after : w.after? cfg o old a with
      | none => rfl
      | some next =>
        -- An act is an event of the coordinator, or leaves it as it is.
        have led : next.system = w.system ∨
            ∃ e : Event cfg, w.system.after? e = some next.system := by
          cases a with
          | turn i => exact .inr (after?_of_turn? after)
          | enter n =>
            cases after
            exact .inr ⟨.enter n, rfl⟩
          | drift e =>
            cases after
            exact .inl rfl
          | stray i told =>
            simp only [World.after?, Option.some.injEq] at after
            subst after
            cases present : (w.system.threads.take old)[i]? with
            | none => exact .inl rfl
            | some t =>
              obtain ⟨-, there⟩ := getElem?_take_eq_some.mp present
              exact .inr ⟨.turn i t _, System.after?_turn_eq_some.mpr ⟨there, rfl⟩⟩
        rcases led with same | ⟨e, after⟩
        · exact ih (same ▸ counted) (by omega)
        · exact ih (counted.after? after) (by split <;> omega)

end World

/-! ## The cells after a reset -/

/-- The configuration that was applied is forgotten where nobody has asked for a setup, and by a
reset that has forgotten it. -/
structure Bare (s : System) : Prop where
  vacant : s.cells.claimed = false → s.cells.applied = none
  forgotten : ∀ r, .reset r ∈ s.threads → r = .clearStatus ∨ r = .reopen → s.cells.applied = none

/-- Nothing is applied to a new coordinator. -/
theorem Bare.fresh : Bare {} := ⟨fun _ => rfl, fun _ mem => by cases mem⟩

/-- Only one place of a caller applies a configuration, and only a reset opens the coordinator. -/
theorem Thread.applied_written {t : Thread} (other : ∀ s r, t ≠ .caller (.keepConfiguration s r))
    (resets : ∀ r, t ≠ .reset r) (c : Cells) :
    (t.written c).applied = c.applied ∧ ((t.written c).claimed = false → c.claimed = false) := by
  rcases t with t | t | t | t
  · cases t with
    | keepConfiguration s r => exact (other s r rfl).elim
    | claim s => exact ⟨rfl, fun unclaimed => by cases unclaimed⟩
    | conclude s e stage => cases stage <;> exact ⟨rfl, id⟩
    | _ => exact ⟨rfl, id⟩
  · cases t with
    | conclude j e stage => cases stage <;> exact ⟨rfl, id⟩
    | _ => exact ⟨rfl, id⟩
  · exact (resets t rfl).elim
  · exact ⟨rfl, id⟩

section

variable {s s' : System} {live? : Option SubscriptionId}

/-- A turn that is not that of a reset leads to no reset. -/
theorem Thread.mem_reset_of_advance {i : Nat} {t : Thread} {reply : (t.request cfg).Reply}
    (other : ∀ r, t ≠ .reset r) {r : Reset} (mem : .reset r ∈ (s.advance cfg i t reply).threads) :
    ∃ j, j ≠ i ∧ s.threads[j]? = some (.reset r) := by
  obtain ⟨j, found⟩ := List.mem_iff_getElem?.mp mem
  rcases System.getElem?_advance found with ⟨-, here⟩ | ⟨apart, old⟩ | ⟨-, w, started, here⟩
  · rcases t with t | t | t | t
    · cases here
    · cases here
    · exact (other t rfl).elim
    · cases here
  · exact ⟨j, apart, old⟩
  · cases here

/-- A turn of a reset keeps it so. -/
theorem Bare.turn_of_reset (bare : Bare s) {i : Nat} {r : Reset}
    (present : s.threads[i]? = some (.reset r)) (reply : Unit) :
    Bare (s.advance cfg i (.reset r) reply) := by
  have mine := bare.forgotten r (List.mem_of_getElem? present)
  have stays (empty : s.cells.applied = none) : (r.step s.cells).cells.applied = none := by
    cases r <;> first | exact empty | rfl
  refine ⟨fun free => ?_, fun r' mem past => ?_⟩
  · cases r with
    | reopen => exact mine (.inr rfl)
    | _ => exact stays (bare.vacant free)
  · obtain ⟨j, found⟩ := List.mem_iff_getElem?.mp mem
    rcases System.getElem?_advance found with ⟨-, here⟩ | ⟨-, old⟩ | ⟨-, w, started, -⟩
    · cases here
      cases r with
      | forgetConfiguration => rfl
      | clearStatus => exact mine (.inl rfl)
      | _ => rcases past with past | past <;> cases past
    · exact stays (bare.forgotten r' (List.mem_of_getElem? old) past)
    · cases started

/-- Every orderly event keeps it so. -/
theorem Bare.after? (bare : Bare s) (era : Era s live?) {e : Event cfg}
    (after : s.after? e = some s') : Bare s' := by
  cases e with
  | enter n =>
    cases after
    refine ⟨bare.vacant, fun r mem past => ?_⟩
    rcases List.mem_append.mp mem with old | new
    · exact bare.forgotten r old past
    · rcases past with rfl | rfl <;> cases n <;> simp [Newcomer.thread] at new
  | turn i t reply =>
    obtain ⟨present, rfl⟩ := System.after?_turn_eq_some.mp after
    by_cases resets : ∃ r, t = .reset r
    · obtain ⟨r, rfl⟩ := resets
      exact bare.turn_of_reset present reply
    have other (r : Reset) (is : t = .reset r) : False := resets ⟨r, is⟩
    by_cases applies : ∃ setup r, t = .caller (.keepConfiguration setup r)
    · -- It holds the cells: they are claimed, and no reset is under way.
      obtain ⟨setup, r, rfl⟩ := applies
      cases era with
      | free free => cases free.aside _ (List.mem_of_getElem? present)
      | held k u there holds keeps others =>
        obtain rfl : i = k := by
          refine Classical.byContradiction fun apart => ?_
          cases (others i _ apart present).1
        cases present.symm.trans there
        refine ⟨fun free => ?_, fun r' mem past => ?_⟩
        · cases holds.claimed.symm.trans free
        · obtain ⟨j, apart, old⟩ := Thread.mem_reset_of_advance other mem
          have rests := (others j _ apart old).2
          rcases past with rfl | rfl <;> cases rests
    · obtain ⟨applied, claimed⟩ := t.applied_written
        (fun setup r is => applies ⟨setup, r, is⟩) other s.cells
      have cells : (t.step cfg s.cells reply).cells = t.written s.cells := t.cells_step _ reply
      refine ⟨fun free => ?_, fun r' mem past => ?_⟩
      · rw [System.cells_advance, cells] at free ⊢
        exact applied.trans (bare.vacant (claimed free))
      · obtain ⟨j, -, old⟩ := Thread.mem_reset_of_advance other mem
        rw [System.cells_advance, cells]
        exact applied.trans (bare.forgotten r' (List.mem_of_getElem? old) past)

/-- So does every orderly and timely run. -/
theorem Bare.run? (bare : Bare s) (era : Era s live?) {es : List (Event cfg)}
    (orderly : s.Orderly es) (timely : s.Timely es) (run : s.run? es = some s') :
    Bare s' ∧ ∃ next?, Era s' next? := by
  refine runFrom?_preserves_along (fun m => Bare m ∧ ∃ live?, Era m live?) ?_ run
    (allAlong_and orderly timely) ⟨bare, live?, era⟩
  rintro m e m' ⟨bare, live?, era⟩ allowed after
  obtain ⟨orderly, timely⟩ := Bool.and_eq_true_iff.mp allowed
  obtain ⟨next?, era', -⟩ := era.after? orderly timely after
  exact ⟨bare.after? era after, next?, era'⟩

/-- While a reset is under way nobody carries a setup out. -/
theorem Era.free_of_isUnderway (era : Era s live?) {t : Thread} (mem : t ∈ s.threads)
    (underway : t.isUnderway = true) : Free s := by
  cases era with
  | free free => exact free
  | held i u present holds keeps others =>
    have rests : ∀ v ∈ s.threads, v.isUnderway = false :=
      forall_mem_of_ne present holds.not_isUnderway fun j v apart found => (others j v apart found).2
    cases (rests t mem).symm.trans underway

/-- While nobody has asked for a setup nobody carries one out. -/
theorem Era.free_of_unclaimed (era : Era s live?) (unclaimed : s.cells.claimed = false) :
    Free s := by
  cases era with
  | free free => exact free
  | held i u present holds keeps others => cases holds.claimed.symm.trans unclaimed

/-- While nobody has asked for a setup the cells are those of a new coordinator, but for the count of
resets. -/
theorem Free.cells_since (free : Free s) (bare : Bare s) (unclaimed : s.cells.claimed = false) :
    s.cells.since s.cells.generation = {} := by
  obtain ⟨⟨-, ready, shown⟩, subscription⟩ := free.vacant unclaimed
  obtain ⟨status, observed, fault⟩ := Outlook.mk.inj shown
  simp only [Cells.since, UInt64.sub_self, unclaimed, ready, subscription, status, observed, fault,
    bare.vacant unclaimed]

end

/-! ## Renewal -/

/-- A reset gives back a new coordinator. Let there be any history of lifecycles, with resets that
keep out of the way of calls and come when the last worker has ended, has not begun, or is inside a
call or a pause; and let another such reset have counted itself.

Then each worker from before is powerless for the rest of every run, whatever it is told: it looks at
the interfaces once more at most, finishes the reading of the clock that it is in and begins no
other, and ends without changing a cell, giving a subscription back or failing.

And let the reset have come to its end, with all calls and resets over. Then whatever happens next,
in surroundings whose answers depend on their state only, happens in the same way to a new
coordinator: seen from the reset on the cells, the places of all threads, the surroundings and the
record of what was asked, ordered and given back are equal. The new coordinator has no threads from
before, so that their turns are nothing to it. -/
theorem reset_renews {es : List (Event cfg)} {i : Nat} {m : System}
    (orderly : System.Orderly {} (es ++ [.turn i (.reset .supersede) ()]))
    (timely : System.Timely {} (es ++ [.turn i (.reset .supersede) ()]))
    (reached : System.run? {} (es ++ [.turn i (.reset .supersede) ()]) = some m) :
    (∀ (fs : List (Event cfg)) (s : System), m.Timely fs → m.run? fs = some s →
      ∀ k w, m.threads[k]? = some (.worker w) → ∃ w', Powerless cfg s k w fs w') ∧
    ∀ (fs : List (Event cfg)) (s : System), m.Orderly (fs ++ [.turn i (.reset .reopen) ()]) →
      m.Timely (fs ++ [.turn i (.reset .reopen) ()]) →
      m.run? (fs ++ [.turn i (.reset .reopen) ()]) = some s →
      (∀ t ∈ s.threads, t.isLeftOver = true) →
      ∀ (E : Type) (o : Outside E), o.Steady → ∀ (e : E) (acts : List (Act E)),
        World.Timely cfg o s.threads.length { system := s, outside := e } acts →
        (World.run? cfg o s.threads.length { system := s, outside := e } acts).map
            (World.since s.threads.length s.cells.generation) =
          World.run? cfg o 0 { outside := e } acts := by
  obtain ⟨bare, live?, era⟩ := Bare.fresh.run? (.free .fresh) orderly timely reached
  constructor
  · intro fs s timely run k w present
    obtain ⟨before, -, counted⟩ := runFrom?_concat_eq_some.mp reached
    obtain ⟨there, rfl⟩ := System.after?_turn_eq_some.mp counted
    have underway : (before.advance cfg i (.reset .supersede) ()).threads[i]? =
        some (.reset .release) := System.getElem?_advance_self there
    have free := era.free_of_isUnderway (List.mem_of_getElem? underway) rfl
    exact System.powerless present (free.aside _ (List.mem_of_getElem? present)) timely run
  · intro fs s orderly timely run left E o steady e acts unlapped
    obtain ⟨bare, next?, era⟩ := bare.run? era orderly timely run
    obtain ⟨before, -, opened⟩ := runFrom?_concat_eq_some.mp run
    have unclaimed : s.cells.claimed = false := by
      obtain ⟨-, rfl⟩ := System.after?_turn_eq_some.mp opened
      rfl
    have free := era.free_of_unclaimed unclaimed
    have parted : World.Parted s.threads.length ({ system := s, outside := e } : World E) := by
      refine ⟨Nat.le_refl _, ?_⟩
      rw [List.take_length]
      exact fun t mem => ⟨left t mem, free.aside t mem⟩
    rw [World.since_run? parted steady unlapped]
    simp only [World.since, free.cells_since bare unclaimed, List.drop_length, List.map_nil]

/-- Surroundings in which nothing changes: one wired interface with an address. -/
def quietOutside : Outside Unit where
  listInterfaces _ := (.ok oneWired, ())
  subscribe _ := (.ok ⟨7⟩, ())
  unsubscribe _ _ := ()
  command _ _ := (.ok (), ())
  receive _ _ _ := (.timeout, ())
  readClock _ := (2024, ())
  isCancelled _ := false
  startThread _ := .ok ()
  isLate _ _ := false

/-- A worker waits for a change when a reset comes in. -/
def waitingForChange : List (Event {}) :=
  startOfWorker [⟨"eth0", .ethernet, .any, true⟩] "eth0" ++
    [.turn 1 (.worker (.look subscribedJob)) (.ok []), .enter .reset]

/-- The writes of that reset between its first and its last. -/
def takingBack : List (Event {}) :=
  [.turn 2 (.reset .release) (), .turn 2 (.reset .clearReady) (), .turn 2 (.reset .clearAddress) (),
    .turn 2 (.reset .forgetFault) (), .turn 2 (.reset .forgetConfiguration) (),
    .turn 2 (.reset .clearStatus) ()]

/-- What comes after: a setup by polling, in the middle of which the worker from before is told of
the address. -/
def polledAgain : List (Act Unit) :=
  [.enter (.call polled)] ++ .replicate 4 (.turn 0) ++
    [.stray 1 (.change ⟨"eth0", .ethernet, .loopback⟩), .stray 1 .closed] ++ .replicate 8 (.turn 0)

/-- The worker from before writes nothing, and the second setup ends as on a new coordinator. -/
theorem reset_renews_polled : ∃ m s : System,
    System.run? {} (waitingForChange ++ [.turn 2 (.reset .supersede) ()]) = some m ∧
    m.run? (takingBack ++ [.turn 2 (.reset .reopen) ()] : List (Event {})) = some s ∧
    (∃ w', Powerless {} s 1 (.receive subscribedJob)
      (takingBack ++ [.turn 2 (.reset .reopen) ()]) w') ∧
    (World.run? {} quietOutside 3 { system := s, outside := () } polledAgain).map
        (World.since 3 1) = World.run? {} quietOutside 0 { outside := () } polledAgain ∧
    (World.run? {} quietOutside 3 { system := s, outside := () } polledAgain).map
        (fun w => (w.system.cells.status, w.system.threads[1]?, w.system.threads[3]?)) =
      some (.ready, some (.worker .ended), some (.caller (.returned (.answered true)))) := by
  obtain ⟨powerless, renewed⟩ := @reset_renews {} waitingForChange 2 _ (by decide)
    (System.timely_of_few .fresh (by decide)) rfl
  refine ⟨_, _, rfl, rfl, ?_, ?_, rfl⟩
  · exact powerless _ _ (by decide) rfl 1 _ rfl
  · exact renewed takingBack _ (by decide) (by decide) rfl (by decide) Unit quietOutside
      ⟨fun _ => rfl, fun _ => rfl⟩ () polledAgain (by decide)

end Uplink.Readiness
