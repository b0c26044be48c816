import Uplink.Network.Shared
import Uplink.Proofs.Network.Simulated

/-!
# What the steps of a shared network keep

Between a write and the calls that it leads to, a change is owed to a listener: it is still to be
told of it, or it was told and has not taken the change yet. No step but the listener's own gets rid
of what it is owed, in whatever order writes, calls and commands come.

## Main definitions

- `SharedNetwork.Unissued`, `SharedNetwork.Hears`: a subscription that is the next to be made, and
  one that is told of writes.
- `SharedNetwork.Owes`: a change that a listener has not taken yet; one that is `Drained` is owed
  nothing.
- `SharedNetwork.Steady`, `SharedNetwork.Keeps`: what all steps keep, and what most of them keep.

## Main results

- `SharedNetwork.owes_write`: a write owes its change to everybody who hears it.
- `SharedNetwork.keeps_write`, `SharedNetwork.keeps_call`, `SharedNetwork.keeps_perform` and their
  like: what is owed stays owed.
- `SharedNetwork.owes_take`: only who takes a change is not owed it any more.
-/

namespace Uplink

namespace SimulatedNetwork

variable {n m : SimulatedNetwork} {id : SubscriptionId}

/-- A listener that is changed but not renamed is found as before. -/
theorem listener?_map (n : SimulatedNetwork) {f : Listener → Listener}
    (named : ∀ l, (f l).id = l.id) (id : SubscriptionId) :
    { n with listeners := n.listeners.map f }.listener? id = (n.listener? id).map f := by
  have same : ((fun l : Listener => l.id == id) ∘ f) = fun l => l.id == id := by
    funext l
    rw [Function.comp_apply, named]
  rw [listener?, List.find?_map, same]
  rfl

/-- Whoever is found has the name that was looked for. -/
theorem id_of_listener? {l : Listener} (found : n.listener? id = some l) : l.id = id := by
  simpa using List.find?_some found

/-- A listener that is told of a change has it last. -/
theorem listener?_deliver (n : SimulatedNetwork) (change : AddressChange)
    (told id : SubscriptionId) :
    (n.deliver change told).listener? id = (n.listener? id).map fun l =>
      if l.id = told then { l with inbox := l.inbox ++ [change] } else l :=
  listener?_map n (fun l => by split <;> rfl) id

/-- A subscription that is ended is not live any more. -/
theorem listener?_unsubscribe (n : SimulatedNetwork) (ended id : SubscriptionId) :
    (n.unsubscribe ended).listener? id = (n.listener? id).map fun l =>
      if l.id = ended then { l with live := false } else l :=
  listener?_map n (fun l => by split <;> rfl) id

/-- A new subscription is found behind all others. -/
theorem listener?_subscribe (n : SimulatedNetwork) (id : SubscriptionId) :
    n.subscribe.1.listener? id =
      (n.listener? id).or (if ⟨n.nextId⟩ = id then some { id := ⟨n.nextId⟩ } else none) := by
  rw [listener?, subscribe, List.find?_append, listener?]
  by_cases same : (⟨n.nextId⟩ : SubscriptionId) = id
  · simp [same]
  · simp [same]

/-- What is taken is the oldest change, and it is gone afterwards. -/
theorem take_eq_some {change : AddressChange} (taken : n.take id = (m, some change)) :
    (∃ l rest, n.listener? id = some l ∧ l.inbox = change :: rest) ∧
      m = { n with listeners := n.listeners.map fun l =>
        if l.id = id then { l with inbox := l.inbox.tail } else l } := by
  rw [take] at taken
  split at taken
  · rename_i oldest rest found
    obtain ⟨here, same⟩ := Prod.mk.inj taken
    cases same
    exact ⟨⟨_, rest, found, rfl⟩, here.symm⟩
  · cases taken

theorem listener?_take {change : AddressChange} (taken : n.take id = (m, some change))
    (other : SubscriptionId) :
    m.listener? other = (n.listener? other).map fun l =>
      if l.id = id then { l with inbox := l.inbox.tail } else l := by
  obtain ⟨-, rfl⟩ := take_eq_some taken
  exact listener?_map n (fun l => by split <;> rfl) other

/-- A write changes addresses and nothing else. -/
theorem exists_write (n : SimulatedNetwork) (name : String) (a : Address) :
    ∃ interfaces : List Interface, (n.write name a).1 = { n with interfaces } ∧
      interfaces.map (·.kind) = n.interfaces.map (·.kind) := by
  rw [write]
  split
  · exact ⟨n.interfaces, rfl, rfl⟩
  · rename_i i found
    refine ⟨_, rfl, map_modifyFirst fun j first => ?_⟩
    cases found.symm.trans first
    rfl

end SimulatedNetwork

namespace SharedNetwork

variable {n n' : SharedNetwork} {id : SubscriptionId} {ch : AddressChange}

/-- The subscription that is the next to be made, and was not made before. -/
structure Unissued (n : SharedNetwork) (id : SubscriptionId) : Prop where
  next : ⟨n.network.nextId⟩ = id
  unused : n.network.listener? id = none

/-- A subscription that is told of writes. -/
def Hears (n : SharedNetwork) (id : SubscriptionId) : Prop :=
  ∃ l, n.network.listener? id = some l ∧ l.live = true

/-- A listener is yet to be told of a change, or has not taken it. -/
def Owes (n : SharedNetwork) (id : SubscriptionId) (ch : AddressChange) : Prop :=
  ∃ l, n.network.listener? id = some l ∧ (ch ∈ l.inbox ∨ (id, ch) ∈ n.calls)

/-- All calls to a listener were made, and it has taken all changes. -/
structure Drained (n : SharedNetwork) (id : SubscriptionId) : Prop where
  told : ∀ call ∈ n.calls, call.1 ≠ id
  taken : ∀ l, n.network.listener? id = some l → l.inbox = []

/-- Then it is owed nothing. -/
theorem Drained.not_owes (drained : n.Drained id) : ¬ n.Owes id ch := by
  rintro ⟨l, found, mem | told⟩
  · rw [drained.taken l found] at mem
    cases mem
  · exact drained.told _ told rfl

/-- What every step keeps. -/
structure Steady (n n' : SharedNetwork) : Prop where
  refusal : n'.network.refusal = n.network.refusal
  kinds : n'.network.interfaces.map (·.kind) = n.network.interfaces.map (·.kind)

/-- What a step keeps that neither makes or ends a subscription nor takes a change. -/
structure Keeps (n n' : SharedNetwork) : Prop extends Steady n n' where
  nextId : n'.network.nextId = n.network.nextId
  live : ∀ id, (n'.network.listener? id).map (·.live) = (n.network.listener? id).map (·.live)
  owes : ∀ id ch, n.Owes id ch → n'.Owes id ch

namespace Keeps

@[refl] theorem refl (n : SharedNetwork) : n.Keeps n := ⟨⟨rfl, rfl⟩, rfl, fun _ => rfl, fun _ _ => id⟩

theorem trans {m : SharedNetwork} (first : n.Keeps n') (second : n'.Keeps m) : n.Keeps m where
  refusal := second.refusal.trans first.refusal
  kinds := second.kinds.trans first.kinds
  nextId := second.nextId.trans first.nextId
  live id := (second.live id).trans (first.live id)
  owes id ch owed := second.owes id ch (first.owes id ch owed)

theorem unissued (keeps : n.Keeps n') (unissued : n.Unissued id) : n'.Unissued id := by
  refine ⟨keeps.nextId ▸ unissued.next, ?_⟩
  have live := keeps.live id
  rw [unissued.unused] at live
  simpa using live

theorem hears (keeps : n.Keeps n') (hears : n.Hears id) : n'.Hears id := by
  obtain ⟨l, found, live⟩ := hears
  have kept := keeps.live id
  rw [found, Option.map_some, live] at kept
  exact Option.map_eq_some_iff.mp kept

/-- A step that leaves the listeners alone and loses no call. -/
theorem of_listeners (steady : n.Steady n') (nextId : n'.network.nextId = n.network.nextId)
    (listeners : n'.network.listeners = n.network.listeners)
    (calls : ∀ call ∈ n.calls, call ∈ n'.calls) : n.Keeps n' := by
  have same (id : SubscriptionId) : n'.network.listener? id = n.network.listener? id := by
    rw [SimulatedNetwork.listener?, listeners, SimulatedNetwork.listener?]
  refine ⟨steady, nextId, fun id => by rw [same], ?_⟩
  rintro id ch ⟨l, found, owed⟩
  exact ⟨l, (same id).trans found, owed.imp_right (calls _)⟩

end Keeps

/-! ## The single steps -/

theorem network_write (n : SharedNetwork) (name : String) (a : Address) :
    (n.write name a).network = (n.network.write name a).1 := by
  rw [write]
  rcases n.network.write name a with ⟨network, _ | ⟨change, audience⟩⟩ <;> rfl

/-- The calls of a write come after those that are yet to be made. -/
theorem calls_write (n : SharedNetwork) (name : String) (a : Address) :
    (n.write name a).calls = n.calls ++ (match (n.network.write name a).2 with
      | some (change, audience) => audience.map fun id => (id, change)
      | none => []) := by
  rw [write]
  rcases n.network.write name a with ⟨network, _ | ⟨change, audience⟩⟩
  · exact (List.append_nil _).symm
  · rfl

/-- A write loses nothing. -/
theorem keeps_write (n : SharedNetwork) (name : String) (a : Address) :
    n.Keeps (n.write name a) := by
  obtain ⟨interfaces, written, kinds⟩ := n.network.exists_write name a
  rw [← network_write] at written
  refine .of_listeners ⟨?_, ?_⟩ ?_ ?_ fun call mem => ?_
  · rw [written]
  · rw [written]
    exact kinds
  · rw [written]
  · rw [written]
  · rw [calls_write]
    exact List.mem_append_left _ mem

/-- A write owes its change to everybody who hears it. -/
theorem owes_write {name : String} {a : Address} (hears : n.Hears id)
    (news : n.news? name a = some ch) : (n.write name a).Owes id ch := by
  obtain ⟨l, found, live⟩ := hears
  obtain ⟨⟨change, audience⟩, told, rfl⟩ := Option.map_eq_some_iff.mp news
  -- Whoever is told is among the audience of the moment before the write.
  have present : id ∈ audience := by
    rw [SimulatedNetwork.write] at told
    split at told
    · cases told
    · cases told
      refine List.mem_map.mpr ⟨l, ?_, SimulatedNetwork.id_of_listener? found⟩
      exact List.mem_filter.mpr ⟨List.mem_of_find?_eq_some found, live⟩
  obtain ⟨interfaces, written, -⟩ := n.network.exists_write name a
  refine ⟨l, ?_, .inr ?_⟩
  · rw [network_write, written]
    exact found
  · rw [calls_write, told]
    exact List.mem_append_right _ (List.mem_map_of_mem present)

/-- A call tells its listener, and nobody is owed less for it. -/
theorem keeps_call (n : SharedNetwork) (k : Nat) : n.Keeps (n.call k) := by
  rw [call]
  split
  · rename_i told change here
    refine ⟨⟨rfl, rfl⟩, rfl, fun id => ?_, ?_⟩
    · rw [SimulatedNetwork.listener?_deliver, Option.map_map]
      congr 1
      funext l
      rw [Function.comp_apply]
      split <;> rfl
    · rintro id ch ⟨l, found, owed⟩
      have named := SimulatedNetwork.id_of_listener? found
      have after := n.network.listener?_deliver change told id
      have left {j : Nat} (other : j ≠ k) (there : n.calls[j]? = some (id, ch)) :
          (id, ch) ∈ n.calls.eraseIdx k := List.mem_eraseIdx_iff_getElem?.mpr ⟨j, other, there⟩
      by_cases mine : l.id = told
      · simp only [found, Option.map_some, if_pos mine] at after
        refine ⟨_, after, ?_⟩
        rcases owed with inbox | calls
        · exact .inl (List.mem_append_left _ inbox)
        · -- What was to be told is told now, or it is still to be told.
          obtain ⟨j, there⟩ := List.mem_iff_getElem?.mp calls
          by_cases now : j = k
          · rw [now] at there
            cases there.symm.trans here
            exact .inl (List.mem_append_right _ List.mem_cons_self)
          · exact .inr (left now there)
      · simp only [found, Option.map_some, if_neg mine] at after
        refine ⟨_, after, owed.imp_right fun calls => ?_⟩
        obtain ⟨j, there⟩ := List.mem_iff_getElem?.mp calls
        refine left ?_ there
        rintro rfl
        cases there.symm.trans here
        exact mine named
  · exact .refl n

theorem keeps_writeUnderway (n : SharedNetwork) (k : Nat) : n.Keeps (n.writeUnderway k) := by
  rw [writeUnderway]
  split
  · rename_i name a here
    have first : n.Keeps { n with underway := n.underway.eraseIdx k } :=
      .of_listeners ⟨rfl, rfl⟩ rfl rfl fun _ => id
    exact first.trans (keeps_write _ name a)
  · exact .refl n

theorem keeps_letThrough (n : SharedNetwork) : n.Keeps n.letThrough :=
  .of_listeners ⟨rfl, rfl⟩ rfl rfl fun _ => id

theorem keeps_assign (n : SharedNetwork) (name : String) (a : Address) :
    n.Keeps (n.assign name a) := by
  rw [assign]
  split
  · exact .of_listeners ⟨rfl, rfl⟩ rfl rfl fun _ => id
  · exact .of_listeners ⟨rfl, rfl⟩ rfl rfl fun _ => id

/-- Where an address comes from is no matter of kinds. -/
theorem kinds_setDhcp (n : SimulatedNetwork) (name : String) (dhcp : Bool) :
    (n.setDhcp name dhcp).interfaces.map (·.kind) = n.interfaces.map (·.kind) :=
  SimulatedNetwork.map_modifyFirst fun _ _ => rfl

/-- A command writes nothing itself, so it loses nothing. -/
theorem keeps_apply (n : SharedNetwork) (c : NetworkCommand) : n.Keeps (n.apply c) := by
  cases c with
  | staticAddress name a mask gateway =>
    have first : n.Keeps { n with
        network := { n.network with staticApplied := some a }.setDhcp name false } :=
      .of_listeners ⟨rfl, kinds_setDhcp _ name false⟩ rfl rfl fun _ => id
    exact first.trans (keeps_assign _ name a)
  | dhcp name =>
    have first : n.Keeps { n with
        network := { n.network with dhcpApplied := true }.setDhcp name true } :=
      .of_listeners ⟨rfl, kinds_setDhcp _ name true⟩ rfl rfl fun _ => id
    exact first.trans (keeps_assign _ name SimulatedNetwork.lease)
  | staticServers name servers => exact .of_listeners ⟨rfl, rfl⟩ rfl rfl fun _ => id
  | automaticServers name => exact .of_listeners ⟨rfl, rfl⟩ rfl rfl fun _ => id

theorem keeps_perform (n : SharedNetwork) (c : NetworkCommand) : n.Keeps (n.perform c).1 := by
  rw [perform]
  split
  · exact .refl n
  · exact keeps_apply n c

/-! ## Steps of the listener itself -/

/-- A new subscription hears all writes from then on. -/
theorem hears_subscribe (unissued : n.Unissued id) :
    ({ n with network := n.network.subscribe.1 } : SharedNetwork).Hears id := by
  obtain ⟨rfl, unused⟩ := unissued
  refine ⟨{ id := ⟨n.network.nextId⟩ }, ?_, rfl⟩
  rw [SimulatedNetwork.listener?_subscribe, unused, if_pos rfl, Option.none_or]

/-- Nobody is owed less for a new subscription. -/
theorem owes_subscribe (owes : n.Owes id ch) :
    ({ n with network := n.network.subscribe.1 } : SharedNetwork).Owes id ch := by
  obtain ⟨l, found, owed⟩ := owes
  refine ⟨l, ?_, owed⟩
  rw [SimulatedNetwork.listener?_subscribe, found, Option.some_or]

/-- Nobody is owed less when a subscription ends. -/
theorem owes_release (owes : n.Owes id ch) (given : Option SubscriptionId) :
    (n.release given).Owes id ch := by
  obtain ⟨l, found, owed⟩ := owes
  cases given with
  | none => exact ⟨l, found, owed⟩
  | some ended =>
    have after := n.network.listener?_unsubscribe ended id
    by_cases this : l.id = ended
    · simp only [found, Option.map_some, if_pos this] at after
      exact ⟨_, after, owed⟩
    · simp only [found, Option.map_some, if_neg this] at after
      exact ⟨_, after, owed⟩

/-- Whoever takes a change is owed the others still, and nobody else is owed less. -/
theorem owes_take {taker : SubscriptionId} {network : SimulatedNetwork} {oldest : AddressChange}
    (taken : n.network.take taker = (network, some oldest)) (owes : n.Owes id ch) :
    ({ n with network } : SharedNetwork).Owes id ch ∨ (id = taker ∧ ch = oldest) := by
  obtain ⟨l, found, owed⟩ := owes
  obtain ⟨⟨taking, rest, there, inbox⟩, -⟩ := SimulatedNetwork.take_eq_some taken
  have after := SimulatedNetwork.listener?_take taken id
  have named := SimulatedNetwork.id_of_listener? found
  by_cases this : id = taker
  · subst this
    cases found.symm.trans there
    simp only [found, Option.map_some, if_pos named] at after
    rcases owed with mem | calls
    · rw [inbox] at mem
      rcases List.mem_cons.mp mem with same | later
      · exact .inr ⟨rfl, same⟩
      · refine .inl ⟨_, after, .inl ?_⟩
        rw [inbox]
        exact later
    · exact .inl ⟨_, after, .inr calls⟩
  · have apart : l.id ≠ taker := fun same => this (named.symm.trans same)
    simp only [found, Option.map_some, if_neg apart] at after
    exact .inl ⟨_, after, owed⟩

/-- A change that is taken leaves every subscription that hears writes hearing them. -/
theorem Hears.take {taker : SubscriptionId} {network : SimulatedNetwork} {oldest : AddressChange}
    (hears : n.Hears id) (taken : n.network.take taker = (network, some oldest)) :
    ({ n with network } : SharedNetwork).Hears id := by
  obtain ⟨l, found, live⟩ := hears
  have after := SimulatedNetwork.listener?_take taken id
  rw [found, Option.map_some] at after
  refine ⟨_, after, ?_⟩
  split <;> exact live

theorem steady_subscribe (n : SharedNetwork) :
    n.Steady { n with network := n.network.subscribe.1 } := ⟨rfl, rfl⟩

theorem steady_release (n : SharedNetwork) (given : Option SubscriptionId) :
    n.Steady (n.release given) := by
  cases given <;> exact ⟨rfl, rfl⟩

theorem steady_take {taker : SubscriptionId} {network : SimulatedNetwork} {oldest : AddressChange}
    (taken : n.network.take taker = (network, some oldest)) : n.Steady { n with network } := by
  obtain ⟨-, rfl⟩ := SimulatedNetwork.take_eq_some taken
  exact ⟨rfl, rfl⟩

end SharedNetwork

end Uplink
