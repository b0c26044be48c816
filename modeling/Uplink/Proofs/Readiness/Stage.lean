import Uplink.Proofs.Network.Shared
import Uplink.Proofs.Readiness.Run

/-!
# A coordinator on a shared network

The threads of a coordinator get their replies from the network that they share with everybody who
sets addresses or lets them through. What happens is a turn of a thread with a reply that the network
gives at that moment, or a step of the network itself: a write, or a call to a listener.

The network is as free as its single steps allow. An assignment that a command has taken up may be
written when the command has long returned, and calls are made in any order, so that whatever holds
here holds all the more when they are made one after the other.

## Main definitions

- `SharedNetwork.answer?`: the network after a reply, if it can give this reply.
- `Happening`, `Stage.after?`: one thing that happens, and what it leads to.
- `Stage.run?`: what a list of happenings leads to.

## Main results

- `SharedNetwork.answered`: what giving a reply may do to the network.
- `Stage.after?_cases`: what can happen, and what it leads to.
-/

namespace Uplink

open Readiness

/-- The network when it has given a reply, if it can give this reply now. Whoever waits for a change
may give up at any time. -/
def SharedNetwork.answer? (n : SharedNetwork) : (q : Request) → q.Reply → Option SharedNetwork
  | .listInterfaces, .ok interfaces => if interfaces = n.network.interfaces then some n else none
  | .listInterfaces, .error _ => none
  | .subscribe, .ok id =>
    if id = ⟨n.network.nextId⟩ then some { n with network := n.network.subscribe.1 } else none
  | .subscribe, .error _ => none
  | .command c, .ok () =>
    match n.perform c with
    | (m, .ok ()) => some m
    | (_, .error _) => none
  | .command c, .error cause =>
    match n.perform c with
    | (m, .error refusal) => if refusal = cause then some m else none
    | (_, .ok ()) => none
  | .receive channel _, .change change =>
    match n.network.take channel with
    | (network, some oldest) => if oldest = change then some { n with network } else none
    | (_, none) => none
  | .receive channel _, .closed =>
    if n.isClosed channel ∧ (n.network.take channel).2 = none then some n else none
  | _, _ => some n

namespace SharedNetwork

/-- What giving a reply may do to the network: it makes a subscription, or lets a listener take a
change, or keeps everything that most steps keep. -/
inductive Answered (n m : SharedNetwork) : (q : Request) → q.Reply → Prop
  | keeps {q : Request} {reply : q.Reply} (keeps : n.Keeps m) : Answered n m q reply
  | subscribed {id : SubscriptionId} (made : { n with network := n.network.subscribe.1 } = m) :
      Answered n m .subscribe (.ok id)
  | taken {channel : SubscriptionId} {limit : Duration} {oldest : AddressChange}
      {network : SimulatedNetwork} (taken : n.network.take channel = (network, some oldest))
      (left : { n with network } = m) : Answered n m (.receive channel limit) (.change oldest)

variable {n m : SharedNetwork} {q : Request} {reply : q.Reply}

theorem answered (answer : n.answer? q reply = some m) : n.Answered m q reply := by
  cases q with
  | listInterfaces =>
    cases reply with
    | error cause => cases answer
    | ok interfaces =>
      obtain ⟨-, same⟩ := Option.ite_none_right_eq_some.mp answer
      cases same
      exact .keeps (.refl n)
  | subscribe =>
    cases reply with
    | error cause => cases answer
    | ok id =>
      obtain ⟨-, made⟩ := Option.ite_none_right_eq_some.mp answer
      exact .subscribed (Option.some.inj made)
  | command c =>
    have keeps := n.keeps_perform c
    rcases done : n.perform c with ⟨network, refusal | _⟩
    all_goals
      rw [done] at keeps
      cases reply <;> simp only [answer?, done] at answer
    · obtain ⟨-, same⟩ := Option.ite_none_right_eq_some.mp answer
      cases same
      exact .keeps keeps
    · cases answer
    · cases answer
    · cases answer
      exact .keeps keeps
  | receive channel limit =>
    cases reply with
    | change change =>
      simp only [answer?] at answer
      split at answer
      · rename_i network oldest taken
        obtain ⟨rfl, left⟩ := Option.ite_none_right_eq_some.mp answer
        exact .taken taken (Option.some.inj left)
      · cases answer
    | timeout =>
      cases answer
      exact .keeps (.refl n)
    | closed =>
      obtain ⟨-, same⟩ := Option.ite_none_right_eq_some.mp answer
      cases same
      exact .keeps (.refl n)
  | readClock | readToken | startWorker | pause | watch | nothing =>
    cases answer
    exact .keeps (.refl n)

/-- No reply changes what kinds of interface there are, or whether commands are carried out. -/
theorem Answered.steady (answered : n.Answered m q reply) : n.Steady m := by
  cases answered with
  | keeps keeps => exact keeps.toSteady
  | subscribed made => exact made ▸ n.steady_subscribe
  | taken taken left => exact left ▸ steady_take taken

/-- No reply gets rid of what is owed, except to the listener who takes it. -/
theorem Answered.owes {id : SubscriptionId} {ch : AddressChange} (answered : n.Answered m q reply)
    (owes : n.Owes id ch) :
    m.Owes id ch ∨ ∃ limit, q = .receive id limit ∧ HEq reply (Reception.change ch) := by
  cases answered with
  | keeps keeps => exact .inl (keeps.owes id ch owes)
  | subscribed made => exact .inl (made ▸ owes_subscribe owes)
  | taken taken left =>
    rcases owes_take taken owes with still | ⟨rfl, rfl⟩
    · exact .inl (left ▸ still)
    · exact .inr ⟨_, rfl, .rfl⟩

end SharedNetwork

namespace Readiness

variable {cfg : Config}

/-- One thing that happens to a coordinator on a shared network. -/
inductive Happening (cfg : Config) where
  /-- A turn of a thread, or a newcomer. -/
  | step (e : Event cfg)
  /-- Somebody writes an address. -/
  | setAddress (name : String) (a : Address)
  /-- Somebody lets through what was held back. -/
  | letThrough
  /-- An assignment that was taken up is written. -/
  | write (k : Nat)
  /-- A call to a listener is made. -/
  | call (k : Nat)

/-- Whether a reset comes in. -/
def Happening.isReset : Happening cfg → Bool
  | step e => e.isReset
  | _ => false

/-- A coordinator and the network that it shares. -/
structure Stage where
  system : System
  shared : SharedNetwork

/-- The network after an event of the coordinator: it has given the reply, and the subscription is
ended that the turn gave back. -/
def attended? (n : SharedNetwork) (c : Cells) : Event cfg → Option SharedNetwork
  | .turn _ t reply =>
    (n.answer? (t.request cfg) reply).map (·.release (t.step cfg c reply).unsubscribed)
  | .enter _ => some n

namespace Stage

/-- What a happening leads to. -/
def after? (s : Stage) : Happening cfg → Option Stage
  | .step e =>
    (s.system.after? e).bind fun system =>
      (attended? s.shared s.system.cells e).map fun shared => ⟨system, shared⟩
  | .setAddress name a => some { s with shared := s.shared.write name a }
  | .letThrough => some { s with shared := s.shared.letThrough }
  | .write k => some { s with shared := s.shared.writeUnderway k }
  | .call k => some { s with shared := s.shared.call k }

/-- What a list of happenings leads to. -/
abbrev run? (s : Stage) (es : List (Happening cfg)) : Option Stage := runFrom? after? s es

variable {s s' : Stage}

/-- A turn of a thread, with a reply that the network gives. -/
theorem after?_turn_eq_some {i : Nat} {t : Thread} {reply : (t.request cfg).Reply} :
    s.after? (.step (.turn i t reply)) = some s' ↔
      s.system.threads[i]? = some t ∧
        ∃ n, s.shared.answer? (t.request cfg) reply = some n ∧
          ⟨s.system.advance cfg i t reply,
            n.release (t.step cfg s.system.cells reply).unsubscribed⟩ = s' := by
  simp only [after?, attended?, Option.bind_eq_some_iff, Option.map_eq_some_iff,
    System.after?_turn_eq_some]
  constructor
  · rintro ⟨_, ⟨present, rfl⟩, _, ⟨n, answer, rfl⟩, rfl⟩
    exact ⟨present, n, answer, rfl⟩
  · rintro ⟨present, n, answer, rfl⟩
    exact ⟨_, ⟨present, rfl⟩, _, ⟨n, answer, rfl⟩, rfl⟩

/-- What happens is a turn of a thread with a reply of the network, or a newcomer comes in, or the
network goes on and loses nothing. -/
theorem after?_cases {e : Happening cfg} (after : s.after? e = some s') :
    (∃ i t reply n, e = .step (.turn i t reply) ∧ s.system.threads[i]? = some t ∧
      s.shared.answer? (t.request cfg) reply = some n ∧
      s' = ⟨s.system.advance cfg i t reply,
        n.release (t.step cfg s.system.cells reply).unsubscribed⟩) ∨
    (∃ n, e = .step (.enter n) ∧ s' = ⟨s.system.join n, s.shared⟩) ∨
    (s'.system = s.system ∧ s.shared.Keeps s'.shared) := by
  cases e with
  | step e =>
    cases e with
    | turn i t reply =>
      obtain ⟨present, n, answer, same⟩ := after?_turn_eq_some.mp after
      exact .inl ⟨i, t, reply, n, rfl, present, answer, same.symm⟩
    | enter n =>
      cases after
      exact .inr (.inl ⟨n, rfl, rfl⟩)
  | setAddress name a =>
    cases after
    exact .inr (.inr ⟨rfl, s.shared.keeps_write name a⟩)
  | letThrough =>
    cases after
    exact .inr (.inr ⟨rfl, s.shared.keeps_letThrough⟩)
  | write k =>
    cases after
    exact .inr (.inr ⟨rfl, s.shared.keeps_writeUnderway k⟩)
  | call k =>
    cases after
    exact .inr (.inr ⟨rfl, s.shared.keeps_call k⟩)

end Stage

end Readiness

end Uplink
