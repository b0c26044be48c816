import Uplink.Proofs.Readiness.Sight
import Uplink.Proofs.Readiness.Supersession

/-!
# Polling on a network that assigns at once

Where addresses are not held back and no two interfaces have the same name, the first look after the
configuration shown the address that was asked for, be it static or from DHCP. So a polling setup
never pauses for the address, and what is left of it is known at each place.

## Main definitions

- `Polls`: where a polling setup can stand, and what it has made of the network by then.
- `Caller.stepsLeft`: how many steps it has left.
- `Caller.Sound`: what is true at each place if nothing fails.
- `Lone`: a polling setup that is the only thread of its coordinator.

## Main results

- `Polls.step`: each step leads to such a place again.
- `Lone.ends`: it ends if it need not wait for the clock, or not for ever.
- `Lone.ends_unique`, `Lone.ready`: there is one end, and if nothing fails the network is ready.
-/

namespace Uplink.Readiness

variable {cfg : Config} {c : Cells}

/-- The interface shown the address that the setup waits for. -/
abbrev Setup.Shown (cfg : Config) (b : Setup) (n : SimulatedNetwork) : Prop :=
  (Caller.probe cfg b).satisfiedBy n.interfaces = true

/-- Where a polling setup can stand, and what it has made of the network by then. Once the interface
is configured, it shown the address. -/
inductive Polls (cfg : Config) (b : Setup) (n : SimulatedNetwork) : Caller → Prop
  | claim (prompt : n.Prompt) : Polls cfg b n (.claim b)
  | start (prompt : n.Prompt) : Polls cfg b n (.start b .polling)
  | find (prompt : n.Prompt) : Polls cfg b n (.find b .polling)
  | assign (prompt : n.Prompt) (i : Interface)
      (picked : Probe.pick? cfg.target n.interfaces = some i) :
      Polls cfg b n (.assign b .polling i.name)
  | setServers (interface : String) (shown : b.Shown cfg n) :
      Polls cfg b n (.setServers b .polling interface)
  | keepConfiguration (shown : b.Shown cfg n) : Polls cfg b n (.keepConfiguration b .polling)
  | settle (shown : b.Shown cfg n) : Polls cfg b n (.settle b .polling)
  | checkToken (shown : b.Shown cfg n) : Polls cfg b n (.checkToken b)
  | poll (shown : b.Shown cfg n) : Polls cfg b n (.poll b)
  | observe : Polls cfg b n (.observe b)
  | checkTokenForClock (waits : b.requiresClock = true) : Polls cfg b n (.checkTokenForClock b)
  | readClock (waits : b.requiresClock = true) : Polls cfg b n (.readClock b)
  | clockPause (waits : b.requiresClock = true) : Polls cfg b n (.clockPause b)
  | conclude (e : Ending) (stage : Ending.Stage) : Polls cfg b n (.conclude b e stage)
  | returned (v : Verdict) : Polls cfg b n (.returned v)

/-- The address command, carried out at once, makes the interface show the address. -/
theorem Setup.shown_apply {n : SimulatedNetwork} {b : Setup} {i : Interface} (prompt : n.Prompt)
    (usable : ∀ a, b.desired = some a → a.isAny = false)
    (picked : Probe.pick? cfg.target n.interfaces = some i) :
    b.Shown cfg (n.apply (Caller.addressCommand b i.name)) := by
  simp only [Setup.Shown, Probe.satisfiedBy, Caller.probe, Caller.addressCommand, Setup.desired] at usable ⊢
  cases configuration : b.configuration with
  | none =>
    have there := SimulatedNetwork.pick?_assign (n := { n with dhcpApplied := true }) true
      SimulatedNetwork.lease ⟨prompt.undelayed, prompt.distinct⟩ picked
    simp only [SimulatedNetwork.apply, there, Probe.accepts]
    rfl
  | some c =>
    have there := SimulatedNetwork.pick?_assign (n := { n with staticApplied := some c.address })
      false c.address ⟨prompt.undelayed, prompt.distinct⟩ picked
    simp only [SimulatedNetwork.apply, there, Probe.accepts, Option.map_some]
    simpa using usable c.address (by rw [configuration]; rfl)

/-- The command for name servers changes no interface. -/
theorem interfaces_command_servers (x : Conditions) (n : SimulatedNetwork) (b : Setup)
    (interface : String) :
    (x.command n (Caller.serversCommand b interface)).1.interfaces = n.interfaces := by
  have servers : (∃ servers, Caller.serversCommand b interface = .staticServers interface servers) ∨
      Caller.serversCommand b interface = .automaticServers interface := by
    unfold Caller.serversCommand
    split
    · split
      · exact .inr rfl
      · exact .inl ⟨_, rfl⟩
    · exact .inr rfl
  simp only [Conditions.command, SimulatedNetwork.perform]
  split
  · rfl
  · split
    · rfl
    · rcases servers with ⟨servers, is⟩ | is <;> rw [is] <;> rfl

/-- The next step of a caller, with the reply that the bench gives. -/
abbrev Conditions.move (x : Conditions) (cfg : Config) (e : Bench) (c : Cells) (q : Caller) :
    Move Caller :=
  q.step cfg c (x.outside.answer e (q.request cfg)).1

/-- The bench after that reply. -/
abbrev Conditions.benchAfter (x : Conditions) (cfg : Config) (e : Bench) (q : Caller) : Bench :=
  (x.outside.answer e (q.request cfg)).2

/-- Each step of a polling setup leads to such a place again. -/
theorem Polls.step {b : Setup} {q : Caller} {x : Conditions} {e : Bench}
    (polls : Polls cfg b e.network q) (way : b.mode = .polling)
    (usable : ∀ a, b.desired = some a → a.isAny = false) (c : Cells) :
    Polls cfg b (x.benchAfter cfg e q).network (x.move cfg e c q).next := by
  cases polls with
  | claim prompt =>
    show Polls cfg b e.network (Caller.stepClaim b c).next
    rw [Caller.stepClaim]
    split
    · exact .returned _
    · rw [way]
      exact .start prompt
  | start prompt => exact .find prompt
  | find prompt =>
    show Polls cfg b e.network (Caller.stepFind cfg b .polling c (x.look e)).next
    unfold Caller.stepFind Conditions.look
    cases x.lookFault? e.looks with
    | some cause => exact .conclude _ _
    | none =>
      simp only
      cases picked : Probe.pick? cfg.target e.network.interfaces with
      | none => exact .conclude _ _
      | some i => exact .assign prompt i picked
  | assign prompt i picked =>
    show Polls cfg b (x.command e.network (Caller.addressCommand b i.name)).1
      (Caller.stepAssign b .polling i.name c
        (x.command e.network (Caller.addressCommand b i.name)).2).next
    rw [Conditions.command]
    cases x.commandFault? (Caller.addressCommand b i.name) with
    | some cause => exact .conclude _ _
    | none =>
      simp only [SimulatedNetwork.perform]
      cases e.network.refusal with
      | some message => exact .conclude _ _
      | none => exact .setServers _ (Setup.shown_apply prompt usable picked)
  | setServers interface shown =>
    show Polls cfg b (x.command e.network (Caller.serversCommand b interface)).1
      (Caller.stepSetServers b .polling interface c
        (x.command e.network (Caller.serversCommand b interface)).2).next
    have kept := interfaces_command_servers x e.network b interface
    cases (x.command e.network (Caller.serversCommand b interface)).2 with
    | error cause => exact .conclude _ _
    | ok _ => exact .keepConfiguration (by rw [Setup.Shown, kept]; exact shown)
  | keepConfiguration shown => exact .settle shown
  | settle shown => exact .checkToken shown
  | checkToken shown => exact .poll shown
  | poll shown =>
    show Polls cfg b e.network (Caller.stepPoll cfg b c (x.look e)).next
    unfold Caller.stepPoll Conditions.look
    cases x.lookFault? e.looks with
    | some cause => exact .conclude _ _
    | none =>
      simp only [shown, if_true]
      exact .observe
  | observe =>
    show Polls cfg b e.network (Caller.stepObserve b c).next
    rw [Caller.stepObserve]
    split
    · rename_i waits
      exact .checkTokenForClock waits
    · exact .conclude _ _
  | checkTokenForClock waits => exact .readClock waits
  | readClock waits =>
    show Polls cfg b e.network (Caller.stepClock cfg b c (x.year e.readings)).next
    rw [Caller.stepClock]
    split
    · exact .conclude _ _
    · exact .clockPause waits
  | clockPause waits => exact .checkTokenForClock waits
  | conclude ending stage =>
    cases stage with
    | release => cases ending <;> exact .conclude _ _
    | keepFault | publish => exact .conclude _ _
    | settle => exact .returned _
  | returned v => exact .returned v

/-- It does not depend on listeners where a polling setup stands. -/
theorem Polls.of_unheard {b : Setup} {n m : SimulatedNetwork} {q : Caller}
    (polls : Polls cfg b n q) (same : m.unheard = n.unheard) : Polls cfg b m q := by
  have interfaces : m.interfaces = n.interfaces := by
    rw [← m.interfaces_unheard, same, n.interfaces_unheard]
  have shown (before : b.Shown cfg n) : b.Shown cfg m := by
    rw [Setup.Shown, interfaces]
    exact before
  cases polls with
  | claim fit => exact .claim (fit.of_unheard same)
  | start fit => exact .start (fit.of_unheard same)
  | find fit => exact .find (fit.of_unheard same)
  | assign fit i picked => exact .assign (fit.of_unheard same) i (interfaces ▸ picked)
  | setServers interface before => exact .setServers interface (shown before)
  | keepConfiguration before => exact .keepConfiguration (shown before)
  | settle before => exact .settle (shown before)
  | checkToken before => exact .checkToken (shown before)
  | poll before => exact .poll (shown before)
  | observe => exact .observe
  | checkTokenForClock waits => exact .checkTokenForClock waits
  | readClock waits => exact .readClock waits
  | clockPause waits => exact .clockPause waits
  | conclude e stage => exact .conclude e stage
  | returned v => exact .returned v

/-! ## How long it takes -/

/-- How many steps a caller has left at most, if the clock is found plausible after so many readings
that are not, and the first look finds the address. -/
def Caller.stepsLeft (inVain : Nat) : Caller → Nat
  | claim _ => 3 * inVain + 16
  | start .. => 3 * inVain + 15
  | find .. => 3 * inVain + 14
  | assign .. => 3 * inVain + 13
  | setServers .. => 3 * inVain + 12
  | keepConfiguration .. => 3 * inVain + 11
  | settle .. => 3 * inVain + 10
  | checkToken _ => 3 * inVain + 9
  | poll _ => 3 * inVain + 8
  | observe _ => 3 * inVain + 7
  | clockPause _ => 3 * inVain + 7
  | checkTokenForClock _ => 3 * inVain + 6
  | readClock _ => 3 * inVain + 5
  | conclude _ _ stage => stage.writesLeft
  | _ => 0

/-- Whether a caller may still read the clock. -/
def Caller.mayRead : Caller → Bool
  | conclude .. | returned _ => false
  | _ => true

/-- An ending has four writes at most, and reads no clock. -/
theorem Caller.next_ending (k : Nat) (s : Setup) (e : Ending) (c : Cells) :
    (ending s e c).next.stepsLeft k ≤ 4 ∧ (ending s e c).next.mayRead = false := by
  cases e <;> exact ⟨Nat.le_of_ble_eq_true rfl, rfl⟩

/-- Each step takes a polling setup nearer to its end, if the `k`-th reading of the clock would be
plausible and is not past. -/
theorem Polls.stepsLeft_step {b : Setup} {q : Caller} {x : Conditions} {e : Bench} {k : Nat}
    (polls : Polls cfg b e.network q) (way : b.mode = .polling) (c : Cells)
    (running : q.verdict? = none) (credible : b.requiresClock = true → cfg.minYear ≤ x.year k)
    (early : b.requiresClock = true → q.mayRead = true → e.readings ≤ k) :
    (x.move cfg e c q).next.stepsLeft (k - (x.benchAfter cfg e q).readings) <
        q.stepsLeft (k - e.readings) ∧
      (b.requiresClock = true → (x.move cfg e c q).next.mayRead = true →
        (x.benchAfter cfg e q).readings ≤ k) := by
  have ends (n m : Nat) (ending : Ending) (room : 4 < m) :
      (Caller.ending b ending c).next.stepsLeft n < m :=
    Nat.lt_of_le_of_lt (Caller.next_ending n b ending c).1 room
  cases polls with
  | claim prompt =>
    refine ⟨?_, fun waits _ => early waits rfl⟩
    show (Caller.stepClaim b c).next.stepsLeft _ < _
    rw [Caller.stepClaim, way]
    split
    · exact Nat.zero_lt_of_lt (Nat.lt_succ_self _)
    · exact Nat.lt_succ_self _
  | start | keepConfiguration | settle | checkToken | checkTokenForClock | clockPause =>
    exact ⟨Nat.lt_succ_self _, fun waits _ => early waits rfl⟩
  | find prompt =>
    refine ⟨?_, fun waits _ => early waits rfl⟩
    show (Caller.stepFind cfg b .polling c (x.look e)).next.stepsLeft _ < _
    unfold Caller.stepFind
    cases x.look e with
    | error cause => exact ends _ _ _ (by rw [Caller.stepsLeft]; omega)
    | ok interfaces =>
      simp only
      cases Probe.pick? cfg.target interfaces with
      | none => exact ends _ _ _ (by rw [Caller.stepsLeft]; omega)
      | some i => exact Nat.lt_succ_self _
  | assign prompt i picked =>
    refine ⟨?_, fun waits _ => early waits rfl⟩
    show (Caller.stepAssign b .polling i.name c
      (x.command e.network (Caller.addressCommand b i.name)).2).next.stepsLeft _ < _
    cases (x.command e.network (Caller.addressCommand b i.name)).2 with
    | error cause => exact ends _ _ _ (by rw [Caller.stepsLeft]; omega)
    | ok _ => exact Nat.lt_succ_self _
  | setServers interface shown =>
    refine ⟨?_, fun waits _ => early waits rfl⟩
    show (Caller.stepSetServers b .polling interface c
      (x.command e.network (Caller.serversCommand b interface)).2).next.stepsLeft _ < _
    cases (x.command e.network (Caller.serversCommand b interface)).2 with
    | error cause => exact ends _ _ _ (by rw [Caller.stepsLeft]; omega)
    | ok _ => exact Nat.lt_succ_self _
  | poll shown =>
    refine ⟨?_, fun waits _ => early waits rfl⟩
    show (Caller.stepPoll cfg b c (x.look e)).next.stepsLeft _ < _
    unfold Caller.stepPoll Conditions.look
    cases x.lookFault? e.looks with
    | some cause => exact ends _ _ _ (by rw [Caller.stepsLeft]; omega)
    | none =>
      simp only [shown, if_true]
      exact Nat.lt_succ_self _
  | observe =>
    refine ⟨?_, fun waits _ => early waits rfl⟩
    show (Caller.stepObserve b c).next.stepsLeft _ < _
    rw [Caller.stepObserve]
    split
    · exact Nat.lt_succ_self _
    · exact ends _ _ _ (by rw [Caller.stepsLeft]; omega)
  | readClock waits =>
    have due := early waits rfl
    show (Caller.stepClock cfg b c (x.year e.readings)).next.stepsLeft (k - (e.readings + 1)) <
        3 * (k - e.readings) + 5 ∧ (b.requiresClock = true →
          (Caller.stepClock cfg b c (x.year e.readings)).next.mayRead = true → e.readings + 1 ≤ k)
    rw [Caller.stepClock]
    by_cases now : cfg.minYear ≤ x.year e.readings
    · rw [if_pos now]
      exact ⟨ends _ _ _ (by omega), fun _ reads => by cases reads⟩
    · -- This reading was in vain, so it was not the `k`-th.
      have before : e.readings ≠ k := fun same => now (same ▸ credible waits)
      rw [if_neg now]
      refine ⟨?_, fun _ _ => by omega⟩
      show 3 * (k - (e.readings + 1)) + 7 < 3 * (k - e.readings) + 5
      omega
  | conclude ending stage =>
    cases stage with
    | release => cases ending <;> exact ⟨Nat.le_of_ble_eq_true rfl, fun _ reads => by cases reads⟩
    | _ => exact ⟨Nat.le_of_ble_eq_true rfl, fun _ reads => by cases reads⟩
  | returned v => cases running

/-! ## What happens if nothing fails -/

/-- What is true of a polling setup if nothing fails and there is an interface to configure: it has
not been refused, and ends ready. -/
def Caller.Sound (target : InterfaceKind) (interfaces : List Interface) (c : Cells) :
    Caller → Prop
  | claim _ => c.claimed = false ∧ (Probe.pick? target interfaces).isSome = true
  | start .. | find .. => (Probe.pick? target interfaces).isSome = true
  | conclude _ e stage => e = .ready ∧ (stage = .publish ∨ stage = .settle ∧ c.status = .ready)
  | returned _ => c.status = .ready
  | _ => True

/-- Nothing fails. -/
structure Conditions.Faultless (x : Conditions) : Prop where
  looks : ∀ k, x.lookFault? k = none
  commands : ∀ c, x.commandFault? c = none

/-- Without a failure each step keeps it so. -/
theorem Polls.sound_step {b : Setup} {q : Caller} {x : Conditions} {e : Bench}
    (polls : Polls cfg b e.network q) (way : b.mode = .polling) (faultless : x.Faultless)
    (willing : e.network.refusal = none) (sound : q.Sound cfg.target e.network.interfaces c) :
    (x.move cfg e c q).next.Sound cfg.target (x.benchAfter cfg e q).network.interfaces
        (x.move cfg e c q).cells ∧
      (x.benchAfter cfg e q).network.refusal = none := by
  have carriedOut (d : NetworkCommand) : x.command e.network d = (e.network.apply d, .ok ()) := by
    simp only [Conditions.command, faultless.commands, SimulatedNetwork.perform, willing]
  have look : x.look e = .ok e.network.interfaces := by
    simp only [Conditions.look, faultless.looks]
  cases polls with
  | claim prompt =>
    obtain ⟨unclaimed, there⟩ := sound
    refine ⟨?_, willing⟩
    have admitted : Caller.stepClaim b c =
        { cells := { c with claimed := true }, next := .start b .polling } := by
      rw [Caller.stepClaim, unclaimed, if_neg Bool.false_ne_true, way]
    show (Caller.stepClaim b c).next.Sound _ _ _
    rw [admitted]
    exact there
  | start prompt => exact ⟨sound, willing⟩
  | find prompt =>
    refine ⟨?_, willing⟩
    obtain ⟨i, picked⟩ := Option.isSome_iff_exists.mp sound
    show (Caller.stepFind cfg b .polling c (x.look e)).next.Sound _ _ _
    simp only [Caller.stepFind, look, picked]
    trivial
  | assign prompt i picked =>
    show (Caller.stepAssign b .polling i.name c
        (x.command e.network (Caller.addressCommand b i.name)).2).next.Sound _ _ _ ∧
      (x.command e.network (Caller.addressCommand b i.name)).1.refusal = none
    rw [carriedOut]
    exact ⟨trivial, (e.network.refusal_apply _).trans willing⟩
  | setServers interface shown =>
    show (Caller.stepSetServers b .polling interface c
        (x.command e.network (Caller.serversCommand b interface)).2).next.Sound _ _ _ ∧
      (x.command e.network (Caller.serversCommand b interface)).1.refusal = none
    rw [carriedOut]
    exact ⟨trivial, (e.network.refusal_apply _).trans willing⟩
  | keepConfiguration | settle | checkToken | checkTokenForClock | clockPause =>
    exact ⟨trivial, willing⟩
  | poll shown =>
    refine ⟨?_, willing⟩
    show (Caller.stepPoll cfg b c (x.look e)).next.Sound _ _ _
    simp only [Caller.stepPoll, look, shown, if_true]
    trivial
  | observe =>
    refine ⟨?_, willing⟩
    show (Caller.stepObserve b c).next.Sound _ _ (Caller.stepObserve b c).cells
    rw [Caller.stepObserve]
    split
    · trivial
    · exact ⟨rfl, .inl rfl⟩
  | readClock waits =>
    refine ⟨?_, willing⟩
    show (Caller.stepClock cfg b c (x.year e.readings)).next.Sound _ _ _
    rw [Caller.stepClock]
    split
    · exact ⟨rfl, .inl rfl⟩
    · trivial
  | conclude ending stage =>
    refine ⟨?_, willing⟩
    obtain ⟨rfl, rfl | ⟨rfl, published⟩⟩ := sound
    · exact ⟨rfl, .inr ⟨rfl, rfl⟩⟩
    · exact published
  | returned v => exact ⟨sound, willing⟩

/-! ## Alone on a bench -/

/-- A polling setup that is the only thread of its coordinator and stands at this place. -/
structure Lone (cfg : Config) (b : Setup) (v : World Bench) (q : Caller) : Prop where
  place : v.system.threads = [.caller q]
  polls : Polls cfg b v.outside.network q
  way : b.mode = .polling
  usable : ∀ a, b.desired = some a → a.isAny = false

namespace Lone

variable {b : Setup} {v v' v₁ : World Bench} {q : Caller} {x : Conditions} {i : Nat} {is : List Nat}

theorem isOver_iff (lone : Lone cfg b v q) : v.isOver = true ↔ ∃ r, q = .returned r := by
  simp only [World.isOver, lone.place, List.all_cons, List.all_nil, Bool.and_true]
  cases q <;> simp [Thread.isOver]

/-- There is one turn, that of the caller. -/
theorem turn?_eq_some (lone : Lone cfg b v q) :
    v.turn? cfg x.outside i = some v' ↔ i = 0 ∧ v.turn cfg x.outside 0 (.caller q) = v' := by
  rw [World.turn?, lone.place]
  cases i <;> simp

/-- The caller goes on where its step leads. -/
theorem turn (lone : Lone cfg b v q) :
    Lone cfg b (v.turn cfg x.outside 0 (.caller q))
      (x.move cfg v.outside v.system.cells q).next where
  place := by
    have alone (reply : (q.request cfg).Reply) : Thread.started? cfg (.caller q) reply = none := by
      cases lone.polls <;> rfl
    simp only [World.turn, System.threads_advance, lone.place, alone]
    rfl
  polls := (lone.polls.step lone.way lone.usable v.system.cells).of_unheard
    (congrArg Bench.network (x.unheard_release _ _))
  way := lone.way
  usable := lone.usable

/-- Once the caller has its answer, nothing happens any more. -/
theorem turn_of_isOver (lone : Lone cfg b v q) (allOver : v.isOver = true) :
    v.turn cfg x.outside 0 (.caller q) = v := by
  obtain ⟨r, rfl⟩ := lone.isOver_iff.mp allOver
  obtain ⟨⟨cells, threads⟩, e, dealt⟩ := v
  obtain rfl : threads = [.caller (.returned r)] := lone.place
  show World.mk ⟨cells, [.caller (.returned r)]⟩ e (dealt ++ []) = _
  rw [List.append_nil]

theorem turns?_of_isOver (lone : Lone cfg b v q) (allOver : v.isOver = true)
    (run : v.turns? cfg x.outside is = some v') : v' = v := by
  refine runFrom?_preserves (fun _ => True) (· = v) ?_ run (fun _ _ => trivial) rfl
  rintro _ i next rfl - turn
  obtain ⟨-, rfl⟩ := lone.turn?_eq_some.mp turn
  exact lone.turn_of_isOver allOver

theorem turns? (lone : Lone cfg b v q) (run : v.turns? cfg x.outside is = some v') :
    ∃ q', Lone cfg b v' q' := by
  refine runFrom?_preserves (fun _ => True) (fun v => ∃ q, Lone cfg b v q) ?_ run
    (fun _ _ => trivial) ⟨q, lone⟩
  rintro v i next ⟨q, lone⟩ - turn
  obtain ⟨-, rfl⟩ := lone.turn?_eq_some.mp turn
  exact ⟨_, lone.turn⟩

/-- Whatever has happened so far, it was on the way to the end. -/
theorem ends_of_turns? (lone : Lone cfg b v q) (ends : v.Ends cfg x.outside v₁)
    (run : v.turns? cfg x.outside is = some v') : v'.Ends cfg x.outside v₁ := by
  induction is generalizing v q with
  | nil =>
    cases run
    exact ends
  | cons i is ih =>
    obtain ⟨next, turn, rest⟩ := runFrom?_cons_eq_some.mp run
    obtain ⟨-, rfl⟩ := lone.turn?_eq_some.mp turn
    refine ih lone.turn ?_ rest
    obtain ⟨js, run₁, allOver⟩ := ends
    cases js with
    | nil =>
      cases run₁
      rw [lone.turn_of_isOver allOver]
      exact .of_isOver allOver
    | cons j js =>
      obtain ⟨next, turn, rest₁⟩ := runFrom?_cons_eq_some.mp run₁
      obtain ⟨-, rfl⟩ := lone.turn?_eq_some.mp turn
      exact ⟨js, rest₁, allOver⟩

/-- There is one end. -/
theorem ends_unique (lone : Lone cfg b v q) (first : v.Ends cfg x.outside v₁)
    (second : v.Ends cfg x.outside v') : v₁ = v' := by
  obtain ⟨is, run, allOver⟩ := second
  obtain ⟨q', lone'⟩ := lone.turns? run
  obtain ⟨js, run₁, -⟩ := lone.ends_of_turns? first run
  exact lone'.turns?_of_isOver allOver run₁

/-- A polling setup ends, unless it needs the clock and no reading of it would be plausible. -/
theorem ends {k : Nat} (lone : Lone cfg b v q)
    (credible : b.requiresClock = true → cfg.minYear ≤ x.year k)
    (early : b.requiresClock = true → q.mayRead = true → v.outside.readings ≤ k) :
    ∃ v', v.Ends cfg x.outside v' := by
  induction steps : q.stepsLeft (k - v.outside.readings) using Nat.strongRecOn
    generalizing v q with
  | ind n ih =>
    by_cases allOver : v.isOver = true
    · exact ⟨v, .of_isOver allOver⟩
    have running : q.verdict? = none := by
      cases q with
      | returned r => exact absurd (lone.isOver_iff.mpr ⟨r, rfl⟩) allOver
      | _ => rfl
    have readings : (v.turn cfg x.outside 0 (.caller q)).outside.readings =
        (x.benchAfter cfg v.outside q).readings := Conditions.readings_eq (x.unheard_release _ _)
    obtain ⟨fewer, early⟩ :=
      lone.polls.stepsLeft_step lone.way v.system.cells running credible early
    rw [← readings] at fewer early
    obtain ⟨v', ends⟩ := ih _ (steps ▸ fewer) lone.turn early rfl
    exact ⟨v', .of_turn? (lone.turn?_eq_some.mpr ⟨rfl, rfl⟩) ends⟩

/-- While nothing fails, each turn keeps it so. -/
theorem sound_turn (lone : Lone cfg b v q) (faultless : x.Faultless)
    (willing : v.outside.network.refusal = none)
    (sound : q.Sound cfg.target v.outside.network.interfaces v.system.cells) :
    (v.turn cfg x.outside 0 (.caller q)).outside.network.refusal = none ∧
      (x.move cfg v.outside v.system.cells q).next.Sound cfg.target
        (v.turn cfg x.outside 0 (.caller q)).outside.network.interfaces
        (v.turn cfg x.outside 0 (.caller q)).system.cells := by
  have network : (v.turn cfg x.outside 0 (.caller q)).outside.network.unheard =
      (x.benchAfter cfg v.outside q).network.unheard :=
    congrArg Bench.network (x.unheard_release _ _)
  obtain ⟨sound, willing⟩ := lone.polls.sound_step lone.way faultless willing sound
  constructor
  · rw [← SimulatedNetwork.refusal_unheard, network]
    exact willing
  · rw [← SimulatedNetwork.interfaces_unheard, network]
    exact sound

/-- If nothing fails, the end is that the network is ready. -/
theorem ready (lone : Lone cfg b v q) (faultless : x.Faultless)
    (willing : v.outside.network.refusal = none)
    (sound : q.Sound cfg.target v.outside.network.interfaces v.system.cells)
    (ends : v.Ends cfg x.outside v') : v'.system.cells.status = .ready := by
  obtain ⟨is, run, allOver⟩ := ends
  induction is generalizing v q with
  | nil =>
    cases run
    obtain ⟨r, rfl⟩ := lone.isOver_iff.mp allOver
    exact sound
  | cons i is ih =>
    obtain ⟨next, turn, rest⟩ := runFrom?_cons_eq_some.mp run
    obtain ⟨-, rfl⟩ := lone.turn?_eq_some.mp turn
    obtain ⟨willing, sound⟩ := lone.sound_turn (x := x) faultless willing sound
    exact ih lone.turn willing sound rest

end Lone

end Uplink.Readiness
