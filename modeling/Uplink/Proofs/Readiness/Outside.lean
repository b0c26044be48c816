import Uplink.Proofs.Readiness.Itinerary

/-!
# A coordinator in its surroundings

The steps of a coordinator's threads leave it open what is replied to them. Two runs can be compared
only if the same things lie around both, so here the replies come from somewhere: from surroundings
with a state of their own, on which every answer depends and which a call may change. Once they are
given, nothing is left open but whose turn it is.

## Main definitions

- `Outside`: surroundings; `Outside.answer` is their answer to a request.
- `World`: a coordinator, the state of its surroundings, and what its threads have dealt with them.
- `World.turn?`, `World.turns?`: the next turn of a thread, and what many turns lead to.
- `World.Ends`: the world in which all threads are over.
-/

namespace Uplink.Readiness

/-- What lies outside of a coordinator. Every answer depends on its state alone. -/
structure Outside (E : Type) where
  listInterfaces : E → Except ErrorChain (List Interface) × E
  subscribe : E → Except ErrorChain SubscriptionId × E
  unsubscribe : E → SubscriptionId → E
  command : E → NetworkCommand → Except ErrorChain Unit × E
  receive : E → SubscriptionId → Duration → Reception × E
  readClock : E → Int × E
  /-- Whether the cancel token is cancelled. -/
  isCancelled : E → Bool
  /-- Whether a thread can be started. -/
  startThread : E → Except ErrorChain Unit
  /-- Whether a limit has passed while the signal was watched. -/
  isLate : E → Duration → Bool

/-- A coordinator in its surroundings, and what its threads have dealt with them so far. -/
structure World (E : Type) where
  system : System := {}
  outside : E
  /-- The dealings, each with the number of the thread. -/
  dealt : List (Nat × Dealing) := []

variable {E : Type} {cfg : Config}

namespace Outside

/-- The answer to a request, and the surroundings after it. -/
def answer (o : Outside E) (e : E) : (q : Request) → q.Reply × E
  | .listInterfaces => o.listInterfaces e
  | .subscribe => o.subscribe e
  | .command c => o.command e c
  | .receive channel limit => o.receive e channel limit
  | .readClock => o.readClock e
  | .readToken => (o.isCancelled e, e)
  | .startWorker _ => (o.startThread e, e)
  | .pause _ => ((), e)
  | .watch limit => (o.isLate e limit, e)
  | .nothing => ((), e)

/-- The surroundings after a subscription was given back, if one was. -/
def release (o : Outside E) (e : E) : Option SubscriptionId → E
  | some id => o.unsubscribe e id
  | none => e

end Outside

namespace World

/-- The world after the `i`-th thread, which stands at `t`, has taken its step. -/
def turn (cfg : Config) (o : Outside E) (w : World E) (i : Nat) (t : Thread) : World E :=
  let answer := o.answer w.outside (t.request cfg)
  let m := t.step cfg w.system.cells answer.1
  { system := w.system.advance cfg i t answer.1
    outside := o.release answer.2 m.unsubscribed
    dealt := w.dealt ++ ((dealings t w.system.cells answer.1).map fun d => (i, d)).toList }

/-- The world after the next turn of the `i`-th thread, if there is one. -/
def turn? (cfg : Config) (o : Outside E) (w : World E) (i : Nat) : Option (World E) :=
  w.system.threads[i]?.map (w.turn cfg o i)

/-- The world after the turns of these threads, one after the other. -/
abbrev turns? (cfg : Config) (o : Outside E) (w : World E) (is : List Nat) : Option (World E) :=
  runFrom? (turn? cfg o) w is

/-- Whether all threads are over. -/
def isOver (w : World E) : Bool := w.system.threads.all (·.isOver)

/-- Some turns lead to the second world, and all threads are over there. -/
def Ends (cfg : Config) (o : Outside E) (w w' : World E) : Prop :=
  ∃ is, w.turns? cfg o is = some w' ∧ w'.isOver = true

variable {o : Outside E} {w w' w₁ : World E} {i : Nat}

theorem turn?_eq_some :
    w.turn? cfg o i = some w' ↔ ∃ t, w.system.threads[i]? = some t ∧ w.turn cfg o i t = w' :=
  Option.map_eq_some_iff

/-- A turn is one of the coordinator, with the reply that the surroundings give. -/
theorem after?_of_turn? (turn : w.turn? cfg o i = some w') :
    ∃ e : Event cfg, w.system.after? e = some w'.system := by
  obtain ⟨t, present, rfl⟩ := turn?_eq_some.mp turn
  exact ⟨.turn i t _, System.after?_turn_eq_some.mpr ⟨present, rfl⟩⟩

theorem Ends.of_isOver (allOver : w.isOver = true) : w.Ends cfg o w := ⟨[], rfl, allOver⟩

theorem Ends.of_turn? (turn : w.turn? cfg o i = some w₁) (ends : w₁.Ends cfg o w') :
    w.Ends cfg o w' := by
  obtain ⟨is, run, allOver⟩ := ends
  exact ⟨i :: is, runFrom?_cons_eq_some.mpr ⟨w₁, turn, run⟩, allOver⟩

end World

end Uplink.Readiness
