import Uplink.Network.Simulated
import Uplink.Proofs.Network.Simulated
import Uplink.Proofs.Readiness.Outside

/-!
# What can be seen of a setup

A setup with events and a polling one cannot leave the same trace: one subscribes, the other does
not. What can be compared is the rest, the cells without the subscription, the network without its
listeners, and the calls that are not about subscriptions. The rest takes care of itself: what a
turn makes of it depends on the place of the thread and on nothing that was left out.

The surroundings here are a simulated network, with a script that says which calls fail and what the
clock shows.

## Main definitions

- `Bench`, `Conditions`: a simulated network with its counts, and what happens on it.
- `World.view`: what can be seen.
- `View.after`: what a turn makes of it.

## Main results

- `World.view_turn`: a turn makes that of it.
-/

namespace Uplink.Readiness

variable {cfg : Config} {c : Cells}

/-! ## Surroundings -/

/-- A simulated network, with a count of the looks at it and of the readings of the clock. -/
structure Bench where
  network : SimulatedNetwork
  looks : Nat := 0
  readings : Nat := 0

/-- What goes wrong, and what the clock shows. -/
structure Conditions where
  /-- The error of a look at the interfaces, if it fails; the first one has number zero. -/
  lookFault? : Nat → Option ErrorChain
  /-- The error of a command that does not reach the network. -/
  commandFault? : NetworkCommand → Option ErrorChain
  /-- The year that a reading of the clock shows; the first one has number zero. -/
  year : Nat → Int

namespace Conditions

/-- A look at the interfaces. -/
def look (x : Conditions) (e : Bench) : Except ErrorChain (List Interface) :=
  match x.lookFault? e.looks with
  | some cause => .error cause
  | none => .ok e.network.interfaces

/-- A command: it fails before it reaches the network, or the network carries it out or refuses
it. -/
def command (x : Conditions) (n : SimulatedNetwork) (c : NetworkCommand) :
    SimulatedNetwork × Except ErrorChain Unit :=
  match x.commandFault? c with
  | some cause => (n, .error cause)
  | none => n.perform c

/-- The surroundings of a coordinator on a simulated network, with a token that never fires. -/
def outside (x : Conditions) : Outside Bench where
  listInterfaces e := (x.look e, { e with looks := e.looks + 1 })
  subscribe e := (.ok e.network.subscribe.2, { e with network := e.network.subscribe.1 })
  unsubscribe e id := { e with network := e.network.unsubscribe id }
  command e c := ((x.command e.network c).2, { e with network := (x.command e.network c).1 })
  receive e id _ :=
    ((match (e.network.take id).2 with
      | some change => .change change
      | none => if e.network.isClosed id then .closed else .timeout),
      { e with network := (e.network.take id).1 })
  readClock e := (x.year e.readings, { e with readings := e.readings + 1 })
  isCancelled _ := false
  startThread _ := .ok ()
  isLate _ _ := false

end Conditions

/-! ## What can be seen -/

/-- A bench without listeners. -/
def Bench.unheard (e : Bench) : Bench := { e with network := e.network.unheard }

/-- The cells without the subscription. -/
def Cells.unheard (c : Cells) : Cells := { c with subscription := none }

/-- Whether a call is about a subscription. -/
def Errand.isSubscription : Errand → Bool
  | subscribe | unsubscribe _ => true
  | _ => false

/-- The calls that can be seen of a dealing. -/
def Dealing.calls (d : Dealing) : List Errand := d.errand?.toList.filter (!·.isSubscription)

/-- What can be seen of a setup, if one does not look at subscriptions: the cells, the network, and
the calls to the network and to the clock. -/
structure View where
  cells : Cells
  bench : Bench
  calls : List Errand

/-- What can be seen of a world. -/
def World.view (w : World Bench) : View where
  cells := w.system.cells.unheard
  bench := w.outside.unheard
  calls := w.dealt.flatMap fun (_, d) => d.calls

/-- What can be seen of a request. -/
def Request.seen : Request → Request
  | listInterfaces => listInterfaces
  | command c => command c
  | readClock => readClock
  | _ => nothing

/-- The call that a request is, if it can be seen. -/
def Request.call? : Request → Option Errand
  | listInterfaces => some .list
  | command c => some (.command c)
  | readClock => some .clock
  | _ => none

/-- What can be seen after a turn of a thread, by what could be seen before. -/
def View.after (cfg : Config) (x : Conditions) (v : View) (t : Thread) : View where
  cells := (t.written v.cells).unheard
  bench := (x.outside.answer v.bench (t.request cfg).seen).2.unheard
  calls := v.calls ++ (t.request cfg).call?.toList

theorem Thread.unheard_written (t : Thread) (c : Cells) :
    (t.written c.unheard).unheard = (t.written c).unheard := by
  rcases t with t | t | t | t
  · cases t with
    | conclude s e stage => cases stage <;> cases e <;> rfl
    | _ => rfl
  · cases t with
    | conclude j e stage => cases stage <;> cases e <;> rfl
    | _ => rfl
  · cases t <;> rfl
  · rfl

namespace Conditions

variable (x : Conditions) {e e' : Bench}

theorem unheard_command (n : SimulatedNetwork) (c : NetworkCommand) :
    (x.command n c).1.unheard = (x.command n.unheard c).1.unheard ∧
      (x.command n c).2 = (x.command n.unheard c).2 := by
  simp only [command]
  cases x.commandFault? c with
  | some cause => exact ⟨rfl, rfl⟩
  | none => exact n.unheard_perform c

theorem unheard_answer (e : Bench) (q : Request) :
    (x.outside.answer e q).2.unheard = (x.outside.answer e.unheard q.seen).2.unheard := by
  cases q with
  | command c => exact congrArg (fun n => Bench.mk n e.looks e.readings) (x.unheard_command _ c).1
  | receive id limit =>
    exact congrArg (fun n => Bench.mk n e.looks e.readings) (SimulatedNetwork.unheard_take _ id)
  | _ => rfl

theorem unheard_release (e : Bench) (id? : Option SubscriptionId) :
    (x.outside.release e id?).unheard = e.unheard := by
  cases id? <;> rfl

/-- The answers to a request that can be seen do not depend on listeners. -/
theorem look_eq (same : e.unheard = e'.unheard) : x.look e = x.look e' := by
  obtain ⟨network, looks, -⟩ := Bench.mk.inj same
  have interfaces : e.network.interfaces = e'.network.interfaces := by
    rw [← e.network.interfaces_unheard, network, e'.network.interfaces_unheard]
  rw [look, look, looks, interfaces]

theorem command_eq (same : e.unheard = e'.unheard) (c : NetworkCommand) :
    (x.command e.network c).2 = (x.command e'.network c).2 := by
  obtain ⟨network, -⟩ := Bench.mk.inj same
  rw [(x.unheard_command e.network c).2, (x.unheard_command e'.network c).2, network]

theorem readings_eq (same : e.unheard = e'.unheard) : e.readings = e'.readings :=
  (Bench.mk.inj same).2.2

end Conditions

/-- The calls that can be seen of a turn are those of the request. -/
theorem calls_dealings (t : Thread) (c : Cells) (reply : (t.request cfg).Reply) :
    (dealings t c reply).toList.flatMap Dealing.calls = (t.request cfg).call?.toList := by
  have asked (q : Request) (reply : q.Reply) :
      (Dealing.asked q reply).calls = q.call?.toList := by
    cases q <;> rfl
  simp only [dealings]
  split
  · rename_i silent
    have none : (t.request cfg).call? = none := by
      revert silent
      cases t.request cfg <;> simp [Request.isSilent, Request.call?]
    rw [none]
    cases (t.step cfg c reply).unsubscribed <;> rfl
  · simpa using asked (t.request cfg) reply

/-- A turn shows what its place makes of what could be seen before. -/
theorem World.view_turn (x : Conditions) (w : World Bench) (i : Nat) (t : Thread) :
    (w.turn cfg x.outside i t).view = w.view.after cfg x t := by
  simp only [view, View.after, turn, System.cells_advance, t.cells_step, t.unheard_written,
    x.unheard_release, x.unheard_answer w.outside, List.flatMap_append]
  congr 2
  rw [← calls_dealings t w.system.cells (x.outside.answer w.outside (t.request cfg)).1]
  cases dealings t w.system.cells (x.outside.answer w.outside (t.request cfg)).1 <;> rfl

end Uplink.Readiness
