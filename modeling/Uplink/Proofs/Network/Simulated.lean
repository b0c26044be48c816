import Mathlib.Data.List.Nodup
import Uplink.Network.Simulated
import Uplink.Readiness.Probe

/-!
# What commands do to a simulated network

Listeners only listen: what a command does to the interfaces of a simulated network, and to what it
has noted, does not depend on them. So two networks that differ in their listeners alone can be
given the same commands, and stay alike. And without delay an address is there as soon as the
command has been carried out; where no two interfaces have the same name, at the interface that was
meant.

## Main definitions

- `SimulatedNetwork.unheard`: a network without its listeners.
- `SimulatedNetwork.Prompt`: a network on which an address is there as soon as it was asked for.

## Main results

- `SimulatedNetwork.unheard_perform`: a command does the same without listeners.
- `SimulatedNetwork.pick?_assign`: the interface that was picked has the address that was asked for.
-/

namespace Uplink

open Readiness

namespace SimulatedNetwork

variable {n : SimulatedNetwork} {name : String} {a : Address}

/-! ## Listeners -/

/-- A network without its listeners. -/
def unheard (n : SimulatedNetwork) : SimulatedNetwork := { n with listeners := [], nextId := 0 }

@[simp] theorem interfaces_unheard (n : SimulatedNetwork) : n.unheard.interfaces = n.interfaces :=
  rfl

@[simp] theorem refusal_unheard (n : SimulatedNetwork) : n.unheard.refusal = n.refusal := rfl

@[simp] theorem unheard_take (n : SimulatedNetwork) (id : SubscriptionId) :
    (n.take id).1.unheard = n.unheard := by
  unfold take
  split <;> rfl

/-- Telling a change to any number of listeners. -/
theorem unheard_foldl_deliver (change : AddressChange) (audience : List SubscriptionId)
    (n : SimulatedNetwork) :
    (audience.foldl (fun n id => n.deliver change id) n).unheard = n.unheard := by
  induction audience generalizing n with
  | nil => rfl
  | cons id audience ih => exact ih (n.deliver change id)

/-- What is written does not depend on listeners. -/
theorem unheard_setAddress (n : SimulatedNetwork) (name : String) (a : Address) :
    (n.setAddress name a).unheard =
      { n.unheard with interfaces := match n.find? name with
        | some i => modifyFirst name (fun _ => { i with ipv4 := a }) n.interfaces
        | none => n.interfaces } := by
  simp only [setAddress, write]
  cases n.find? name with
  | none => rfl
  | some i => exact unheard_foldl_deliver _ _ _

theorem unheard_assign (n : SimulatedNetwork) (name : String) (a : Address) :
    (n.assign name a).unheard = (n.unheard.assign name a).unheard := by
  have delayed : n.unheard.delayed = n.delayed := rfl
  simp only [assign, delayed]
  split
  · rfl
  · rw [unheard_setAddress, unheard_setAddress]
    rfl

theorem unheard_apply (n : SimulatedNetwork) (c : NetworkCommand) :
    (n.apply c).unheard = (n.unheard.apply c).unheard := by
  cases c with
  | staticAddress name a mask gateway => exact unheard_assign _ name a
  | dhcp name => exact unheard_assign _ name lease
  | staticServers | automaticServers => rfl

/-- A command does the same without listeners. -/
theorem unheard_perform (n : SimulatedNetwork) (c : NetworkCommand) :
    (n.perform c).1.unheard = (n.unheard.perform c).1.unheard ∧
      (n.perform c).2 = (n.unheard.perform c).2 := by
  simp only [perform, refusal_unheard]
  cases n.refusal with
  | some message => exact ⟨rfl, rfl⟩
  | none => exact ⟨n.unheard_apply c, rfl⟩

/-- No command changes whether commands are refused. -/
theorem refusal_apply (n : SimulatedNetwork) (c : NetworkCommand) :
    (n.apply c).refusal = n.refusal := by
  have assign (m : SimulatedNetwork) (name : String) (a : Address) :
      (m.assign name a).refusal = m.refusal := by
    simp only [SimulatedNetwork.assign]
    split
    · rfl
    · rw [← refusal_unheard, unheard_setAddress]
      rfl
  cases c with
  | staticAddress | dhcp => exact assign _ _ _
  | staticServers | automaticServers => rfl

/-! ## The interface that was meant -/

variable {target : InterfaceKind} {interfaces : List Interface} {i : Interface}

/-- What a change keeps of the first interface of a name, it keeps of all. -/
theorem map_modifyFirst {K : Type} {key : Interface → K} {f : Interface → Interface}
    (kept : ∀ i, interfaces.find? (fun i => i.name == name) = some i → key (f i) = key i) :
    (modifyFirst name f interfaces).map key = interfaces.map key := by
  induction interfaces with
  | nil => rfl
  | cons i rest ih =>
    by_cases named : i.name = name
    · rw [modifyFirst, if_pos named, List.map_cons, List.map_cons, kept i (by simp [named])]
    · rw [modifyFirst, if_neg named, List.map_cons, List.map_cons,
        ih fun j found => kept j (by simpa [named] using found)]

/-- Where names are distinct, an interface is found by its name. -/
theorem find?_name_of_mem (distinct : (interfaces.map (·.name)).Nodup) (mem : i ∈ interfaces) :
    interfaces.find? (fun j => j.name == i.name) = some i := by
  induction interfaces with
  | nil => cases mem
  | cons j rest ih =>
    rw [List.map_cons, List.nodup_cons] at distinct
    obtain ⟨unlike, distinct⟩ := distinct
    rcases List.mem_cons.mp mem with rfl | later
    · simp
    · have other : (j.name == i.name) = false := by
        refine beq_false_of_ne fun same => unlike ?_
        rw [same]
        exact List.mem_map_of_mem later
      simp only [List.find?_cons, other]
      exact ih distinct later

/-- Where names are distinct, a change of the picked interface by its name that keeps its kind is a
change of the interface that is picked. -/
theorem pick?_modifyFirst {f : Interface → Interface} (distinct : (interfaces.map (·.name)).Nodup)
    (picked : Probe.pick? target interfaces = some i) (kept : (f i).kind = i.kind) :
    Probe.pick? target (modifyFirst i.name f interfaces) = some (f i) := by
  induction interfaces with
  | nil => cases picked
  | cons j rest ih =>
    rw [List.map_cons, List.nodup_cons] at distinct
    obtain ⟨unlike, distinct⟩ := distinct
    cases first : j.kind == target with
    | true =>
      simp only [Probe.pick?, List.find?_cons, first, Option.some.injEq] at picked
      subst picked
      simp only [modifyFirst, if_pos, Probe.pick?, List.find?_cons, kept, first]
    | false =>
      simp only [Probe.pick?, List.find?_cons, first] at picked
      have other : j.name ≠ i.name := by
        refine fun same => unlike ?_
        rw [same]
        exact List.mem_map_of_mem (List.mem_of_find?_eq_some picked)
      simp only [modifyFirst, if_neg other, Probe.pick?, List.find?_cons, first]
      exact ih distinct picked

/-- A network on which an address is there as soon as it was asked for, at the interface that was
meant. -/
structure Prompt (n : SimulatedNetwork) : Prop where
  undelayed : n.delayed = false
  distinct : (n.interfaces.map (·.name)).Nodup

theorem Prompt.of_unheard {m : SimulatedNetwork} (prompt : n.Prompt)
    (same : m.unheard = n.unheard) : m.Prompt where
  undelayed := (congrArg SimulatedNetwork.delayed same).trans prompt.undelayed
  distinct := by
    rw [← m.interfaces_unheard, same, n.interfaces_unheard]
    exact prompt.distinct

theorem Prompt.setDhcp (prompt : n.Prompt) (name : String) (dhcp : Bool) :
    (n.setDhcp name dhcp).Prompt where
  undelayed := prompt.undelayed
  distinct := by
    have names : (n.setDhcp name dhcp).interfaces.map (·.name) = n.interfaces.map (·.name) :=
      map_modifyFirst (f := fun j => { j with dhcp }) fun _ _ => rfl
    rw [names]
    exact prompt.distinct

/-- On such a network, the interface that was picked has the address when a command has been carried
out. -/
theorem pick?_assign (dhcp : Bool) (a : Address) (prompt : n.Prompt)
    (picked : Probe.pick? target n.interfaces = some i) :
    Probe.pick? target ((n.setDhcp i.name dhcp).assign i.name a).interfaces =
      some { i with dhcp, ipv4 := a } := by
  have marked : Probe.pick? target (n.setDhcp i.name dhcp).interfaces = some { i with dhcp } :=
    pick?_modifyFirst prompt.distinct picked rfl
  obtain ⟨undelayed, distinct⟩ := prompt.setDhcp i.name dhcp
  have found : (n.setDhcp i.name dhcp).find? i.name = some { i with dhcp } :=
    find?_name_of_mem distinct (List.mem_of_find?_eq_some marked)
  rw [assign, undelayed, if_neg Bool.false_ne_true, ← interfaces_unheard, unheard_setAddress, found]
  exact pick?_modifyFirst (i := { i with dhcp }) distinct marked rfl

end SimulatedNetwork

end Uplink
