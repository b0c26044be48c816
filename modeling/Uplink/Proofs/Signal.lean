import Uplink.Proofs.Entries
import Uplink.Proofs.Runs
import Uplink.Signal.Waiting

/-!
# Waiting for a signal

`Gathering.Step` says which steps are possible around a signal, not which one was taken. Here a
step has a label, what happened, so that a run is a list of happenings, and one can say which of
them came last. Nothing is assumed of their order: threads wake up without having been called, they
come in at any time, and as many as like.

Two invariants carry the result. One follows a single waiter: until the look that ends its wait it
is on its way with the deadline that it came in with. The other is about all of them: when the
signal tells something, whoever sleeps has been called. The second is kept because looking and
falling asleep is one step, and because every operation that changes the signal calls everybody.

## Main definitions

- `Gathering.Happening`, `Gathering.after`, `Gathering.run`: what can happen, and what it leads to.
- `Gathering.SetSinceCleared`: whether the signal was set after it was last cleared.
- `Gathering.Ends`: when a look ends a wait, and with which result.

## Main results

- `Gathering.reachable_iff_run`: runs are the sequences of steps.
- `Gathering.waits_follow_signal`: what a signal says, how waits end, and that nobody sleeps on.
-/

namespace Uplink.Gathering

/-- What can happen around a signal. -/
inductive Happening where
  | perform (op : SignalOperation)
  | arrive (limit : Duration)
  | look (i : Nat)
  | wake (i : Nat)
  | pass (d : Duration)
  deriving DecidableEq, Repr

/-- What a happening leads to. -/
def after (g : Gathering) : Happening → Gathering
  | .perform op => g.perform op
  | .arrive limit => g.arrive limit
  | .look i => g.lookAt i
  | .wake i => g.wakeAt i
  | .pass d => { g with now := g.now.later d }

/-- What happenings lead to, one after the other. -/
def run (g : Gathering) (hs : List Happening) : Gathering := hs.foldl after g

variable {g g' : Gathering} {h : Happening} {hs rest : List Happening} {i : Nat} {w : Waiter}
  {deadline : Option Instant}

@[simp] theorem run_nil : g.run [] = g := rfl

theorem run_append : g.run (hs ++ rest) = (g.run hs).run rest := List.foldl_append

theorem run_concat : g.run (hs ++ [h]) = (g.run hs).after h := run_append

theorem step_iff_after : Step g g' ↔ ∃ h, g.after h = g' := by
  constructor
  · intro step
    cases step with
    | perform op => exact ⟨.perform op, rfl⟩
    | arrive limit => exact ⟨.arrive limit, rfl⟩
    | look i => exact ⟨.look i, rfl⟩
    | wake i => exact ⟨.wake i, rfl⟩
    | pass d => exact ⟨.pass d, rfl⟩
  · rintro ⟨h, rfl⟩
    cases h with
    | perform op => exact .perform g op
    | arrive limit => exact .arrive g limit
    | look i => exact .look g i
    | wake i => exact .wake g i
    | pass d => exact .pass g d

/-- Runs are the sequences of steps. -/
theorem reachable_iff_run : Relation.ReflTransGen Step g g' ↔ ∃ hs, g.run hs = g' := by
  have run_eq : ∀ (hs : List Happening) (g : Gathering),
      runFrom? (fun g h => some (g.after h)) g hs = some (g.run hs) := by
    intro hs
    induction hs with
    | nil => exact fun g => rfl
    | cons h hs ih => exact fun g => ih (g.after h)
  have reached := @reachable_iff_runFrom? _ _ (fun g h => some (after g h)) g g' Step
    (fun {_ _} => step_iff_after.trans (by simp only [Option.some.injEq]))
  simpa only [run_eq, Option.some.injEq] using reached

/-! ## What the signal says -/

/-- Whether the signal was set and has not been cleared since. -/
def SetSinceCleared (hs : List Happening) : Prop :=
  ∃ before since, hs = before ++ .perform .set :: since ∧ .perform .clear ∉ since

theorem setSinceCleared_concat :
    SetSinceCleared (hs ++ [h]) ↔
      h = .perform .set ∨ h ≠ .perform .clear ∧ SetSinceCleared hs := by
  constructor
  · rintro ⟨before, since, split, uncleared⟩
    rcases List.eq_nil_or_concat since with rfl | ⟨since, last, rfl⟩
    · exact .inl (List.head_eq_of_cons_eq (List.append_inj' split rfl).2)
    · rw [List.concat_eq_append] at split uncleared
      rw [← List.cons_append, ← List.append_assoc] at split
      obtain ⟨rfl, same⟩ := List.append_inj' split rfl
      obtain rfl := List.head_eq_of_cons_eq same
      simp only [List.mem_append, List.mem_singleton, not_or] at uncleared
      exact .inr ⟨Ne.symm uncleared.2, before, since, rfl, uncleared.1⟩
  · rintro (rfl | ⟨other, before, since, rfl, uncleared⟩)
    · exact ⟨hs, [], rfl, List.not_mem_nil⟩
    · refine ⟨before, since ++ [h], by simp, ?_⟩
      simp only [List.mem_append, List.mem_singleton, not_or]
      exact ⟨uncleared, Ne.symm other⟩

theorem isSet_after :
    (g.after h).signal.isSet = true ↔
      h = .perform .set ∨ h ≠ .perform .clear ∧ g.signal.isSet = true := by
  cases h with
  | perform op =>
    cases op with
    | set => simp [after, perform]
    | clear => simp [after, perform]
    | abandon =>
      -- giving up leaves a signal that is set as it is
      simp only [after, perform]
      split <;> simp
  | arrive | look | wake | pass => simp [after, arrive, lookAt, wakeAt]

/-- A signal that was not set at first is set if and only if it was set after it was last
cleared. -/
theorem isSet_run (unset : g.signal.isSet = false) :
    (g.run hs).signal.isSet = true ↔ SetSinceCleared hs := by
  induction hs using List.reverseRecOn with
  | nil =>
    rw [run_nil, unset]
    simp [SetSinceCleared]
  | append_singleton hs h ih => rw [run_concat, isSet_after, ih, setSinceCleared_concat]

/-! ## How a wait ends -/

/-- When a look ends a wait, and with which result. -/
def Ends (g : Gathering) (deadline : Option Instant) (result : Bool) : Prop :=
  result = true ∧ g.signal = .set ∨
    result = false ∧
      (g.signal = .abandoned ∨
        g.signal = .pending ∧ ∃ t, deadline = some t ∧ t.nanos ≤ g.now.nanos)

/-- A waiter on its way: about to look, or asleep. -/
def Waits (deadline : Option Instant) (w : Waiter) : Prop :=
  w = .awake deadline ∨ ∃ called, w = .asleep deadline called

/-- What a happening makes of the `i`-th waiter. -/
def Happening.act (g : Gathering) (i : Nat) (w : Waiter) : Happening → Waiter
  | .perform .abandon => if g.signal = .pending then w.call else w
  | .perform _ => w.call
  | .look j => if j = i then w.look g.signal g.now else w
  | .wake j => if j = i then w.wake else w
  | .arrive _ | .pass _ => w

theorem getElem?_after (present : g.waiters[i]? = some w) :
    (g.after h).waiters[i]? = some (h.act g i w) := by
  cases h with
  | perform op =>
    cases op with
    | set | clear => simp [after, perform, Happening.act, present]
    | abandon =>
      simp only [after, perform, Happening.act]
      split <;> simp [present]
  | arrive limit => exact getElem?_append_of_some present
  | look j | wake j =>
    simp only [after, lookAt, wakeAt, Happening.act, List.getElem?_modify, present]
    split <;> rfl
  | pass d => exact present

theorem isDue_iff {now : Instant} :
    Waiter.isDue deadline now = true ↔ ∃ t, deadline = some t ∧ t.nanos ≤ now.nanos := by
  cases deadline <;> simp [Waiter.isDue, Instant.reachedAt]

/-- A look ends a wait or puts the waiter to sleep. -/
theorem look_awake (g : Gathering) (deadline : Option Instant) :
    (∃ result, (Waiter.awake deadline).look g.signal g.now = .back result ∧
        Ends g deadline result) ∨
      (Waiter.awake deadline).look g.signal g.now = .asleep deadline false ∧
        g.signal = .pending := by
  cases position : g.signal with
  | set => exact .inl ⟨true, rfl, .inl ⟨rfl, position⟩⟩
  | abandoned => exact .inl ⟨false, rfl, .inr ⟨rfl, .inl position⟩⟩
  | pending =>
    simp only [Waiter.look, Signal.verdict?]
    split
    · rename_i due
      exact .inl ⟨false, rfl, .inr ⟨rfl, .inr ⟨position, isDue_iff.mp due⟩⟩⟩
    · exact .inr ⟨rfl, trivial⟩

theorem act_back {result : Bool} : h.act g i (.back result) = .back result := by
  cases h with
  | perform op => cases op <;> simp [Happening.act, Waiter.call]
  | arrive | pass => rfl
  | look | wake => simp [Happening.act, Waiter.look, Waiter.wake]

theorem Waits.call (waits : Waits deadline w) : Waits deadline w.call := by
  rcases waits with rfl | ⟨called, rfl⟩
  · exact .inl rfl
  · exact .inr ⟨true, rfl⟩

theorem Waits.wake (waits : Waits deadline w) : Waits deadline w.wake := by
  rcases waits with rfl | ⟨called, rfl⟩
  · exact .inl rfl
  · exact .inl rfl

/-- A waiter stays on its way unless it looks and finds a reason to go. -/
theorem Waits.act (waits : Waits deadline w) :
    Waits deadline (h.act g i w) ∨
      h = .look i ∧ w = .awake deadline ∧
        ∃ result, h.act g i w = .back result ∧ Ends g deadline result := by
  cases h with
  | perform op =>
    cases op with
    | set | clear => exact .inl waits.call
    | abandon =>
      simp only [Happening.act]
      split
      · exact .inl waits.call
      · exact .inl waits
  | arrive | pass => exact .inl waits
  | wake j =>
    simp only [Happening.act]
    split
    · exact .inl waits.wake
    · exact .inl waits
  | look j =>
    simp only [Happening.act]
    split
    · rename_i own
      subst own
      rcases waits with rfl | ⟨called, rfl⟩
      · rcases look_awake g deadline with ended | ⟨asleep, -⟩
        · exact .inr ⟨rfl, rfl, ended⟩
        · exact .inl (.inr ⟨false, asleep⟩)
      · exact .inl (.inr ⟨called, rfl⟩)
    · exact .inl waits

/-- A wait goes on with the deadline that it began with, or a look has ended it. -/
theorem wait_run (present : g.waiters[i]? = some w) (waits : Waits deadline w) :
    (∃ w', (g.run hs).waiters[i]? = some w' ∧ Waits deadline w') ∨
      ∃ before since result, hs = before ++ .look i :: since ∧
        (g.run before).waiters[i]? = some (.awake deadline) ∧
        Ends (g.run before) deadline result ∧
        (g.run hs).waiters[i]? = some (.back result) := by
  induction hs using List.reverseRecOn with
  | nil => exact .inl ⟨w, present, waits⟩
  | append_singleton hs h ih =>
    rw [run_concat]
    rcases ih with ⟨w', there, still⟩ | ⟨before, since, result, rfl, awake, ends, back⟩
    · have next := getElem?_after there (h := h)
      rcases still.act (h := h) (g := g.run hs) (i := i) with
        going | ⟨rfl, rfl, result, back, ends⟩
      · exact .inl ⟨_, next, going⟩
      · exact .inr ⟨hs, [], result, rfl, there, ends, back ▸ next⟩
    · refine .inr ⟨before, since ++ [h], result, by simp, awake, ends, ?_⟩
      rw [getElem?_after back, act_back]

/-! ## Nobody sleeps on -/

/-- Whoever sleeps while the signal tells something has been called. -/
def Roused (g : Gathering) : Prop :=
  g.signal ≠ .pending →
    ∀ (i : Nat) w deadline, g.waiters[i]? = some w → w ≠ .asleep deadline false

theorem call_ne_uncalled : w.call ≠ .asleep deadline false := by
  cases w <;> simp [Waiter.call]

theorem wake_ne_uncalled : w.wake ≠ .asleep deadline false := by
  cases w <;> simp [Waiter.wake]

theorem look_ne_uncalled (tells : g.signal ≠ .pending) (roused : w ≠ .asleep deadline false) :
    w.look g.signal g.now ≠ .asleep deadline false := by
  cases w with
  | awake own =>
    rcases look_awake g own with ⟨result, back, -⟩ | ⟨-, pending⟩
    · simp [back]
    · exact absurd pending tells
  | asleep | back => exact roused

theorem act_ne_uncalled (roused : g.signal ≠ .pending → w ≠ .asleep deadline false)
    (tells : (g.after h).signal ≠ .pending) : h.act g i w ≠ .asleep deadline false := by
  cases h with
  | perform op =>
    cases op with
    | set | clear => exact call_ne_uncalled
    | abandon =>
      simp only [Happening.act]
      split
      · exact call_ne_uncalled
      · rename_i other
        exact roused other
  | arrive | pass => exact roused tells
  | look j =>
    simp only [Happening.act]
    split
    · exact look_ne_uncalled tells (roused tells)
    · exact roused tells
  | wake j =>
    simp only [Happening.act]
    split
    · exact wake_ne_uncalled
    · exact roused tells

/-- Whoever is there after a happening was there before or has just come in. -/
theorem of_getElem?_after (found : (g.after h).waiters[i]? = some w) :
    (∃ v, g.waiters[i]? = some v ∧ w = h.act g i v) ∨ ∃ deadline, w = .awake deadline := by
  cases there : g.waiters[i]? with
  | some v =>
    exact .inl ⟨v, rfl, Option.some.inj (found.symm.trans (getElem?_after there))⟩
  | none =>
    cases h with
    | perform op =>
      cases op with
      | set | clear => simp [after, perform, there] at found
      | abandon =>
        simp only [after, perform] at found
        split at found <;> simp [there] at found
    | arrive limit =>
      rcases getElem?_concat found with old | ⟨-, rfl⟩
      · cases there.symm.trans old
      · exact .inr ⟨_, rfl⟩
    | look j | wake j => simp [after, lookAt, wakeAt, List.getElem?_modify, there] at found
    | pass d => cases there.symm.trans found

theorem Roused.after (roused : Roused g) : Roused (g.after h) := by
  intro tells i w deadline found
  rcases of_getElem?_after found with ⟨v, old, rfl⟩ | ⟨own, rfl⟩
  · exact act_ne_uncalled (fun told => roused told i v deadline old) tells
  · exact nofun

theorem Roused.run (roused : Roused g) : Roused (g.run hs) := by
  induction hs using List.reverseRecOn with
  | nil => exact roused
  | append_singleton hs h ih =>
    rw [run_concat]
    exact ih.after

/-! ## The whole -/

/-- Whatever happens in whatever order: the signal is set if and only if it was set after it was
last cleared; a wait is under way with the deadline that it began with, if the clock can show one,
or was ended by a look, with a result that was true of the signal at that moment; and whoever
sleeps while the signal is set or abandoned has been called. -/
theorem waits_follow_signal (now : Instant) (hs : List Happening) :
    ((run { now } hs).signal.isSet = true ↔ SetSinceCleared hs) ∧
    (∀ first limit rest, hs = first ++ .arrive limit :: rest →
      ∃ i deadline,
        i = (run { now } first).waiters.length ∧
        deadline = (run { now } first).now.after? limit ∧
        ((∃ w, (run { now } hs).waiters[i]? = some w ∧ Waits deadline w) ∨
          ∃ before since there result, rest = before ++ .look i :: since ∧
            there = run { now } (first ++ .arrive limit :: before) ∧
            there.waiters[i]? = some (.awake deadline) ∧ Ends there deadline result ∧
            (run { now } hs).waiters[i]? = some (.back result))) ∧
    ∀ deadline called, .asleep deadline called ∈ (run { now } hs).waiters →
      (run { now } hs).signal ≠ .pending → called = true := by
  refine ⟨isSet_run rfl, ?_, ?_⟩
  · rintro first limit rest rfl
    refine ⟨_, _, rfl, rfl, ?_⟩
    have came : ((run { now } first).after (.arrive limit)).waiters[
        (run { now } first).waiters.length]? =
          some (.awake ((run { now } first).now.after? limit)) := by
      simp [after, arrive]
    have split (since : List Happening) : run { now } (first ++ .arrive limit :: since) =
        ((run { now } first).after (.arrive limit)).run since := run_append
    rw [split]
    rcases wait_run came (.inl rfl) with going | ⟨before, since, result, cut, awake, ends, back⟩
    · exact .inl going
    · exact .inr ⟨before, since, _, result, cut, (split before).symm, awake, ends, back⟩
  · intro deadline called mem tells
    obtain ⟨i, asleep⟩ := List.mem_iff_getElem?.mp mem
    cases called with
    | true => rfl
    | false =>
      have roused : Roused (run { now } hs) := Roused.run nofun
      exact absurd rfl (roused tells i _ deadline asleep)

/-- Somebody waits for longer than the clock can show and is woken for nothing after all that time.
The signal is abandoned, which calls the sleeper, and set before the waiter looks again: it
passes. -/
theorem endless_wait_passes :
    let lull : List Happening :=
      [.arrive .longest, .look 0, .pass .longest, .wake 0, .look 0, .perform .abandon]
    let hs := lull ++ [.perform .set, .wake 0, .look 0]
    (run {} hs).waiters = [.back true] ∧ SetSinceCleared hs ∧
      (∃ before since, hs.tail = before ++ .look 0 :: since ∧
        (run {} (.arrive .longest :: before)).signal = .set) ∧
      (run {} lull).waiters = [.asleep none true] ∧
      ∀ deadline called, .asleep deadline called ∈ (run {} lull).waiters → called = true := by
  intro lull hs
  obtain ⟨set_since, waits, -⟩ := waits_follow_signal ⟨0⟩ hs
  obtain ⟨-, -, called⟩ := waits_follow_signal ⟨0⟩ lull
  refine ⟨by decide, set_since.mp (by decide), ?_, by decide,
    fun deadline c mem => called deadline c mem (by decide)⟩
  obtain ⟨i, deadline, rfl, rfl, outcome⟩ := waits [] .longest hs.tail rfl
  rcases outcome with ⟨w, found, going⟩ | ⟨before, since, there, result, cut, rfl, -, ends, back⟩
  · obtain rfl : w = .back true := Option.some.inj (found.symm.trans (by decide))
    rcases going with ⟨⟨⟩⟩ | ⟨-, ⟨⟩⟩
  · obtain rfl : result = true := by
      have returned : some (Waiter.back result) = some (.back true) := back.symm.trans (by decide)
      exact Waiter.back.inj (Option.some.inj returned)
    rcases ends with ⟨-, set⟩ | ⟨⟨⟩, -⟩
    exact ⟨before, since, cut, set⟩

end Uplink.Gathering
