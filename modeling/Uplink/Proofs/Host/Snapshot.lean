import Mathlib.Data.List.Find
import Mathlib.Data.List.Pairwise
import Uplink.Host.Network
import Uplink.Readiness.Probe

/-!
# The order of a listing

Interfaces that are up are listed before the others, and otherwise the machine's order is kept. This
fixes the listing: it is what sorting by this one criterion gives, if the sort is stable. So the
first interface of a kind in a listing can be found on the machine itself.

## Main definitions

- `LiveFirst`: a list is another one with the interfaces that are up in front.
- `FirstAddress`: an address is the first IPv4 address among several, or the zero address.
- `choose?`: the interface of a kind that is configured.

## Main results

- `LiveFirst.eq`: such an order is unique; `snapshot_eq_mergeSort`: a stable sort finds it.
- `HostNetwork.snapshot_liveFirst`: listings are in this order.
- `HostNetwork.pick?_snapshot`: the first interface of a kind in a listing.
-/

namespace Uplink.Host

variable {p : Probes} {machine order : List MachineInterface}

/-- An order of the interfaces of a machine: those that are up come before all others, and both
groups are in the machine's order. -/
structure LiveFirst (machine order : List MachineInterface) : Prop where
  perm : order.Perm machine
  sorted : order.Pairwise fun i j => j.isUp = true → i.isUp = true
  up : order.filter (·.isUp) = machine.filter (·.isUp)
  down : order.filter (!·.isUp) = machine.filter (!·.isUp)

/-- Where the interfaces that are up come first, they can be taken off. -/
theorem eq_filter_append_filter
    (sorted : order.Pairwise fun i j => j.isUp = true → i.isUp = true) :
    order = order.filter (·.isUp) ++ order.filter (!·.isUp) := by
  induction order with
  | nil => rfl
  | cons i rest ih =>
    obtain ⟨first, sorted⟩ := List.pairwise_cons.mp sorted
    cases up : i.isUp with
    | true =>
      rw [List.filter_cons_of_pos up, List.filter_cons_of_neg (by simp [up]), List.cons_append,
        ← ih sorted]
    | false =>
      have all_down (j : MachineInterface) (mem : j ∈ rest) : j.isUp = false :=
        Bool.eq_false_iff.mpr fun live => Bool.noConfusion (up.symm.trans (first j mem live))
      have none_up : rest.filter (·.isUp) = [] :=
        List.filter_eq_nil_iff.mpr fun j mem => Bool.eq_false_iff.mp (all_down j mem)
      have kept : rest.filter (!·.isUp) = rest :=
        List.filter_eq_self.mpr fun j mem => by simp [all_down j mem]
      rw [List.filter_cons_of_neg (by simp [up]), List.filter_cons_of_pos (by simp [up]), none_up,
        kept, List.nil_append]

/-- There is one such order. -/
theorem LiveFirst.eq (liveFirst : LiveFirst machine order) :
    order = machine.filter (·.isUp) ++ machine.filter (!·.isUp) := by
  rw [← liveFirst.up, ← liveFirst.down]
  exact eq_filter_append_filter liveFirst.sorted

theorem liveFirst_filter (machine : List MachineInterface) :
    LiveFirst machine (machine.filter (·.isUp) ++ machine.filter (!·.isUp)) where
  perm := List.filter_append_perm _ machine
  sorted := by
    refine List.pairwise_append.mpr ⟨?_, ?_, fun i mem _ _ _ => (List.mem_filter.mp mem).2⟩
    · exact List.pairwise_of_forall_mem_list fun i mem _ _ _ => (List.mem_filter.mp mem).2
    · refine List.pairwise_of_forall_mem_list fun _ _ j mem live => ?_
      have down := (List.mem_filter.mp mem).2
      simp [live] at down
  up := by simp [List.filter_filter]
  down := by simp [List.filter_filter]

/-- Whether an interface may be listed before another one. -/
def listedBefore (i j : MachineInterface) : Bool := i.isUp || !j.isUp

/-- A stable sort gives the same order. -/
theorem liveFirst_mergeSort (machine : List MachineInterface) :
    LiveFirst machine (machine.mergeSort listedBefore) := by
  have trans (i j k : MachineInterface) (first : listedBefore i j = true)
      (second : listedBefore j k = true) : listedBefore i k = true := by
    simp only [listedBefore, Bool.or_eq_true, Bool.not_eq_true'] at first second ⊢
    grind
  have total (i j : MachineInterface) : (listedBefore i j || listedBefore j i) = true := by
    cases up : i.isUp <;> simp [listedBefore, up]
  have perm := List.mergeSort_perm machine listedBefore
  -- A group is in order already, so the sort leaves it together; and nobody joins it.
  have group (q : MachineInterface → Bool)
      (even : ∀ i j, q i = true → q j = true → listedBefore i j = true) :
      (machine.mergeSort listedBefore).filter q = machine.filter q := by
    have kept : (machine.filter q).Sublist (machine.mergeSort listedBefore) :=
      List.sublist_mergeSort trans total
        (List.pairwise_of_forall_mem_list fun i first j second =>
          even i j (List.mem_filter.mp first).2 (List.mem_filter.mp second).2)
        List.filter_sublist
    have inside : (machine.filter q).Sublist ((machine.mergeSort listedBefore).filter q) := by
      have filtered := kept.filter q
      simpa only [List.filter_filter, Bool.and_self] using filtered
    exact (inside.eq_of_length (perm.filter q).length_eq.symm).symm
  refine ⟨perm, ?_, group _ ?_, group _ ?_⟩
  · refine (List.pairwise_mergeSort trans total machine).imp fun before live => ?_
    simpa [listedBefore, live] using before
  · intro i j up _
    simp [listedBefore, up]
  · intro i j _ down
    simp [listedBefore, by simpa using down]

/-- Listing the interfaces is sorting them by whether they are up. -/
theorem snapshot_eq_mergeSort (p : Probes) (dhcp : String → Bool)
    (machine : List MachineInterface) :
    snapshot p dhcp machine =
      (machine.mergeSort listedBefore).map fun i => i.toInterface p (dhcp i.name) := by
  rw [(liveFirst_mergeSort machine).eq]
  rfl

/-- An address is the first IPv4 address among several, or the zero address if there is none. -/
inductive FirstAddress : List MachineAddress → Address → Prop
  | found (before : List MachineAddress) (octets : Quad) (after : List MachineAddress)
      (foreign : ∀ a ∈ before, a = .v6) :
      FirstAddress (before ++ .v4 octets :: after) (.ofOctets octets)
  | missing {addresses : List MachineAddress} (foreign : ∀ a ∈ addresses, a = .v6) :
      FirstAddress addresses .any

theorem FirstAddress.cons_v6 {addresses : List MachineAddress} {a : Address}
    (first : FirstAddress addresses a) : FirstAddress (.v6 :: addresses) a := by
  cases first with
  | found before octets after foreign => exact .found (.v6 :: before) octets after (by simpa)
  | missing foreign => exact .missing (by simpa)

/-- What is reported of an interface is its first IPv4 address. -/
theorem firstAddress_firstAddress (i : MachineInterface) :
    FirstAddress i.addresses i.firstAddress := by
  rw [MachineInterface.firstAddress]
  induction i.addresses with
  | nil => exact .missing (by simp)
  | cons a rest ih =>
    cases a with
    | v4 octets => exact .found [] octets rest (by simp)
    | v6 => exact ih.cons_v6

/-- The interface of a kind that is configured: the first one that is up, or else the first one. -/
def choose? (p : Probes) (target : InterfaceKind) (machine : List MachineInterface) :
    Option MachineInterface :=
  (machine.find? fun i => i.isUp && i.classify p == target).or
    (machine.find? fun i => i.classify p == target)

variable {target : InterfaceKind}

/-- The first one that passes, when those that are up are put in front. -/
theorem find?_filter_append_filter (q : MachineInterface → Bool) :
    (machine.filter (·.isUp) ++ machine.filter (!·.isUp)).find? q =
      (machine.find? fun i => i.isUp && q i).or (machine.find? q) := by
  have front : (machine.filter (·.isUp)).find? q = machine.find? fun i => i.isUp && q i := by
    rw [List.find?_filter]
    exact List.find?_congr fun i _ => by simp
  rw [List.find?_append, front]
  cases live : machine.find? fun i => i.isUp && q i with
  | some i => rfl
  | none =>
    -- Whoever passes is down, so that looking among those that are down is looking among all.
    rw [Option.none_or, Option.none_or, List.find?_filter]
    refine List.find?_congr fun i mem => ?_
    have off := List.find?_eq_none.mp live i mem
    cases passes : q i with
    | false => simp
    | true => simpa [passes] using off

/-- Nothing is chosen exactly where there is no interface of the kind. -/
theorem choose?_eq_none_iff :
    choose? p target machine = none ↔ ∀ i ∈ machine, i.classify p ≠ target := by
  simp only [choose?, Option.or_eq_none_iff, List.find?_eq_none, Bool.and_eq_true, beq_iff_eq]
  exact ⟨fun none => none.2, fun none => ⟨fun i mem both => none i mem both.2, none⟩⟩

namespace HostNetwork

variable (h : HostNetwork)

/-- A listing has one entry for each interface of the machine, those that are up before all others
and otherwise in the machine's order. -/
theorem snapshot_liveFirst (p : Probes) (machine : List MachineInterface) :
    ∃ order, LiveFirst machine order ∧
      h.snapshot p machine = order.map fun i =>
        { name := i.name, kind := i.classify p, ipv4 := i.firstAddress
          dhcp := h.dhcp.contains i.name } :=
  ⟨_, liveFirst_filter machine, rfl⟩

/-- The first interface of a kind in a listing is the one that is chosen on the machine. -/
theorem pick?_snapshot (p : Probes) (target : InterfaceKind) (machine : List MachineInterface) :
    Readiness.Probe.pick? target (h.snapshot p machine) =
      (choose? p target machine).map fun i => i.toInterface p (h.dhcp.contains i.name) := by
  rw [Readiness.Probe.pick?, snapshot, Host.snapshot, List.find?_map, find?_filter_append_filter]
  rfl

end HostNetwork

end Uplink.Host
