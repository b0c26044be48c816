import Uplink.Proofs.Host.Commands
import Uplink.Proofs.IpConfiguration.Cidr

/-!
# What every configuration is fit for

There are three checks: the address is not zero, the mask is contiguous, and there are no more than
two name servers. Whatever passes them can be made, so they say all that can be relied upon. That is
less than it takes to give an interface an address: a zero mask is contiguous, and the family of an
address is not looked at. Where the parts come from a text, only the zero mask is left.

## Main definitions

- `Host.HostNetwork.Refuses`: a command fails without anything being run for it.
- `IpConfiguration.IsUsable`: what it takes to give an interface an address.

## Main results

- `IpConfiguration.made_iff`: which configurations can be made.
- `IpConfiguration.foldl_replaceServers_eq`: which name servers are there in the end.
- `IpConfiguration.Made.length`: the prefix length of a configuration is the number of leading ones.
- `IpConfiguration.usable_of_made`: which of them are usable, and which ones a host refuses.
- `IpConfiguration.unusable_is_made`: some that can be made are not usable.
-/

namespace Uplink

namespace Host.HostNetwork

variable {S : Type}

/-- A command fails without anything being run for it. -/
def Refuses (h : HostNetwork) (finder : PrefixFinder) (shell : Shell S) (s : S)
    (c : NetworkCommand) : Prop :=
  (h.perform finder shell s c).tried = [] ∧ ∃ e, (h.perform finder shell s c).result = .error e

/-- Applying, a command is refused exactly if its mask is bad. -/
theorem refuses_iff {h : HostNetwork} {finder : PrefixFinder} (fails : finder.FailsOnGaps)
    (applying : h.mode = .apply) (shell : Shell S) (s : S) (c : NetworkCommand) :
    h.Refuses finder shell s c ↔ c.HasBadMask := by
  obtain ⟨ran, -, failed⟩ := perform_apply fails applying shell s c
  constructor
  · rintro ⟨tried, error⟩
    refine (failed.mp error).resolve_right ?_
    rintro ⟨o, mem, -⟩
    simp only [tried] at mem
    cases mem
  · intro bad
    refine ⟨?_, failed.mpr (.inl bad)⟩
    obtain ⟨-, tried⟩ | ⟨programs, prescribed, -⟩ := ran
    · exact tried
    · obtain ⟨fault, refused⟩ := (plan_eq_error_iff fails).mpr bad
      cases (plan_eq_ok_iff.mpr prescribed).symm.trans refused

end Host.HostNetwork

namespace IpConfiguration

variable {address mask gateway : Address} {c : IpConfiguration} {servers : List Address}

/-- What it takes to give an interface an address. -/
structure IsUsable (c : IpConfiguration) : Prop where
  ours : c.address.family = .internet ∧ c.mask.family = .internet
  used : c.address.value ≠ 0 ∧ c.mask.value ≠ 0
  contiguous : Mask.IsContiguous c.mask
  length : 1 ≤ c.prefixLength.toNat ∧ c.prefixLength.toNat ≤ 32
  servers : c.servers.length ≤ 2

/-! ## Which configurations can be made -/

/-- A configuration is made of any address but zero and any contiguous mask. -/
theorem make_eq_ok_iff :
    make address mask gateway = .ok c ↔
      address.value ≠ 0 ∧ Mask.IsContiguous mask ∧ c = ⟨address, mask, gateway, []⟩ := by
  have zero : address.isAny = true ↔ address.value = 0 := beq_iff_eq
  rw [make]
  split
  next any => simp [zero.mp any]
  next used =>
    have used : address.value ≠ 0 := zero.not.mp used
    cases counted : Mask.prefixLength? mask with
    | none => simp [Mask.prefixLength?_eq_none_iff.mp counted]
    | some length =>
      have contiguous : Mask.IsContiguous mask := by
        by_contra other
        cases counted.symm.trans (Mask.prefixLength?_eq_none_iff.mpr other)
      simp [used, contiguous, eq_comm]

/-- Name servers are replaced by any two at most. -/
theorem withServers_of_few (few : servers.length ≤ maxServers) :
    c.withServers servers = .ok { c with servers } := if_neg (Nat.not_lt.mpr few)

theorem withServers_of_many (many : maxServers < servers.length) :
    c.withServers servers =
      .error (.invalidConfiguration (.tooManyServers maxServers servers.length)) := if_pos many

/-- Whatever passes the three checks can be made, and nothing else. -/
theorem made_iff :
    Made c ↔ c.address.value ≠ 0 ∧ Mask.IsContiguous c.mask ∧ c.servers.length ≤ maxServers := by
  constructor
  · intro made
    induction made with
    | make accepted =>
      obtain ⟨used, contiguous, rfl⟩ := make_eq_ok_iff.mp accepted
      exact ⟨used, contiguous, Nat.zero_le _⟩
    | ofCidr accepted =>
      obtain ⟨address, mask, accepted⟩ := make_of_ofCidr accepted
      obtain ⟨used, contiguous, rfl⟩ := make_eq_ok_iff.mp accepted
      exact ⟨used, contiguous, Nat.zero_le _⟩
    | withServers _ accepted ih =>
      obtain ⟨few, rfl⟩ := withServers_eq_ok accepted
      exact ⟨ih.1, ih.2.1, few⟩
  · rintro ⟨used, contiguous, few⟩
    have made : Made ⟨c.address, c.mask, c.gateway, []⟩ :=
      .make (make_eq_ok_iff.mpr ⟨used, contiguous, rfl⟩)
    exact made.withServers (withServers_of_few few)

/-- Up to two name servers take the place of those that were set, and more than two do not. -/
theorem replaceServers_eq (c : IpConfiguration) (servers : List Address) :
    c.replaceServers servers = if servers.length ≤ maxServers then { c with servers } else c := by
  by_cases few : servers.length ≤ maxServers
  · rw [replaceServers, withServers_of_few few, if_pos few]
  · rw [replaceServers, withServers_of_many (Nat.not_le.mp few), if_neg few]

/-- Of all lists of name servers the last one counts that has at most two, and the others change
nothing. -/
theorem foldl_replaceServers_eq (c : IpConfiguration) (lists : List (List Address)) :
    lists.foldl replaceServers c =
      { c with servers := ((lists.filter (·.length ≤ maxServers)).getLast?).getD c.servers } := by
  induction lists generalizing c with
  | nil => rfl
  | cons servers lists ih =>
    rw [List.foldl_cons, ih, replaceServers_eq, List.filter_cons]
    by_cases few : servers.length ≤ maxServers
    · rw [if_pos few, if_pos (decide_eq_true few), List.getLast?_cons]
      rfl
    · rw [if_neg few, if_neg (by simpa using few)]

/-- Name servers may be replaced any number of times, whether they are accepted or refused. -/
theorem Made.foldl (made : Made c) (lists : List (List Address)) :
    Made (lists.foldl replaceServers c) := by
  obtain ⟨used, contiguous, few⟩ := made_iff.mp made
  rw [foldl_replaceServers_eq, made_iff]
  refine ⟨used, contiguous, ?_⟩
  cases last : (lists.filter (·.length ≤ maxServers)).getLast? with
  | none => exact few
  | some servers =>
    have accepted := (List.mem_filter.mp (List.mem_of_getLast? last)).2
    exact of_decide_eq_true accepted

/-- Neither do they change an address or a mask. -/
theorem foldl_replaceServers (c : IpConfiguration) (lists : List (List Address)) :
    (lists.foldl replaceServers c).address = c.address ∧
      (lists.foldl replaceServers c).mask = c.mask := by
  rw [foldl_replaceServers_eq]
  exact ⟨rfl, rfl⟩

/-! ## Which ones are usable -/

/-- The prefix length of a configuration is the number of ones in front of its mask. -/
theorem Made.length (made : Made c) :
    c.prefixLength.toNat ≤ 32 ∧
      Mask.bitList (Mask.bitsOf c.mask) = Mask.ones c.prefixLength.toNat := by
  obtain ⟨-, ⟨n, few, bits⟩, -⟩ := made_iff.mp made
  have counted : c.prefixLength.toNat = n := by
    rw [prefixLength, Mask.prefixLength?_of_ones few bits]
    exact Mask.toNat_ofNat few
  rw [counted]
  exact ⟨few, bits⟩

/-- A configuration is usable unless its mask is zero or its parts are of foreign families. -/
theorem Made.isUsable_iff (made : Made c) :
    c.IsUsable ↔
      c.address.family = .internet ∧ c.mask.family = .internet ∧ c.mask.value ≠ 0 := by
  obtain ⟨used, contiguous, few⟩ := made_iff.mp made
  obtain ⟨le, bits⟩ := made.length
  constructor
  · intro usable
    exact ⟨usable.ours.1, usable.ours.2, usable.used.2⟩
  · rintro ⟨address, mask, masked⟩
    have positive : c.prefixLength.toNat ≠ 0 := (Mask.value_eq_zero_iff le bits).not.mp masked
    exact ⟨⟨address, mask⟩, ⟨used, masked⟩, contiguous, ⟨Nat.pos_of_ne_zero positive, le⟩, few⟩

/-- A host has nothing else to say against a mask than that it is of a foreign family. -/
theorem Made.hasBadMask_iff (made : Made c) (name : String) :
    (NetworkCommand.staticAddress name c.address c.mask c.gateway).HasBadMask ↔
      c.mask.family ≠ .internet := by
  obtain ⟨-, contiguous, -⟩ := made_iff.mp made
  exact or_iff_left (not_not_intro contiguous)

/-- What can be relied upon. A configuration can be made exactly if it passes the three checks, and
replacing its name servers keeps to them, whether they are accepted or refused. Its prefix is not
longer than 32, and the length is zero exactly if the mask is. So it is usable exactly if its mask
is not zero and neither address nor mask is of a foreign family; if it was read from a text and then
given name servers, exactly if its mask is not zero. A host that applies commands and finds prefixes
where there are any refuses it exactly if its mask is of a foreign family. -/
theorem usable_of_made (c : IpConfiguration) :
    (Made c ↔ c.address.value ≠ 0 ∧ Mask.IsContiguous c.mask ∧ c.servers.length ≤ 2) ∧
    (Made c → ∀ lists : List (List Address), Made (lists.foldl replaceServers c)) ∧
    (Made c → c.prefixLength.toNat ≤ 32 ∧
      Mask.bitList (Mask.bitsOf c.mask) = Mask.ones c.prefixLength.toNat ∧
      (c.prefixLength.toNat = 0 ↔ c.mask.value = 0)) ∧
    (Made c → (c.IsUsable ↔
      c.address.family = .internet ∧ c.mask.family = .internet ∧ c.mask.value ≠ 0)) ∧
    (∀ cidr gateway, ofCidr cidr gateway = .ok c → ∀ lists : List (List Address),
      (lists.foldl replaceServers c).IsUsable ↔ c.mask.value ≠ 0) ∧
    (Made c → ∀ {S : Type} (h : Host.HostNetwork) (finder : Host.PrefixFinder)
      (shell : Host.Shell S) (s : S) (name : String), finder.FailsOnGaps → h.mode = .apply →
        (h.Refuses finder shell s (.staticAddress name c.address c.mask c.gateway) ↔
          c.mask.family ≠ .internet)) := by
  refine ⟨made_iff, Made.foldl, fun made => ?_, Made.isUsable_iff,
    fun cidr gateway accepted lists => ?_, fun made S h finder shell s name fails applying => ?_⟩
  · obtain ⟨few, bits⟩ := made.length
    exact ⟨few, bits, (Mask.value_eq_zero_iff few bits).symm⟩
  · obtain ⟨address, mask⟩ := foldl_replaceServers c lists
    obtain ⟨q, n, made, -, masked, rfl⟩ := ofCidr_eq_ok_iff.mp accepted
    have ours : made.family = .internet :=
      beq_iff_eq.mp (Mask.prefixLength?_of_ofPrefix masked).2.1
    rw [((Made.ofCidr accepted).foldl lists).isUsable_iff, address, mask]
    exact ⟨fun usable => usable.2.2, fun masked => ⟨rfl, ours, masked⟩⟩
  · exact (Host.HostNetwork.refuses_iff fails applying shell s _).trans (made.hasBadMask_iff name)

/-- Two name servers are given to a configuration, and then three, which are refused. -/
theorem usable_of_made_refused_servers :
    let one : Address := .ofOctets ⟨1, 1, 1, 1⟩
    let c : IpConfiguration := ⟨.ofOctets ⟨192, 168, 1, 111⟩, .ofOctets ⟨255, 255, 255, 0⟩,
      .ofOctets ⟨192, 168, 1, 1⟩, []⟩
    let d := [[one, .any], [one, .any, one]].foldl replaceServers c
    ofCidr "192.168.1.111/24" (.ofOctets ⟨192, 168, 1, 1⟩) = .ok c ∧ d.servers = [one, .any] ∧
      d.IsUsable ∧
      ¬ Host.HostNetwork.Refuses { mode := .apply } Host.StandIns.finder Host.StandIns.shell {}
        (.staticAddress "eth0" d.address d.mask d.gateway) := by
  intro one c d
  have accepted : ofCidr "192.168.1.111/24" (.ofOctets ⟨192, 168, 1, 1⟩) = .ok c := rfl
  obtain ⟨-, replaced, -, -, texts, -⟩ := usable_of_made c
  obtain ⟨-, -, -, -, -, hosts⟩ := usable_of_made d
  have made : Made d := replaced (.ofCidr accepted) _
  refine ⟨accepted, rfl, (texts _ _ accepted _).mpr (by decide), ?_⟩
  rw [hosts made _ _ _ _ _ Host.StandIns.counts_finder.failsOnGaps rfl]
  exact not_not_intro rfl

/-- Not every configuration that can be made is usable. A prefix of no length is accepted, and it
makes a zero mask; and a mask of a foreign family is accepted, which a host then refuses. -/
theorem unusable_is_made :
    (∃ c, ofCidr "10.0.0.2/0" (.ofOctets ⟨10, 0, 0, 1⟩) = .ok c ∧ c.mask.value = 0 ∧
      c.prefixLength.toNat = 0) ∧
    (∃ c, make (.ofOctets ⟨10, 0, 0, 2⟩) ⟨.internetV6, 0x00FFFFFF⟩ (.ofOctets ⟨10, 0, 0, 1⟩) =
        .ok c ∧
      ∀ finder, Host.HostNetwork.Refuses { mode := .apply } finder Host.StandIns.shell {}
        (.staticAddress "eth0" c.address c.mask c.gateway)) ∧
    ¬∀ c, Made c → c.IsUsable := by
  have accepted : ofCidr "10.0.0.2/0" (.ofOctets ⟨10, 0, 0, 1⟩) =
      .ok ⟨.ofOctets ⟨10, 0, 0, 2⟩, .any, .ofOctets ⟨10, 0, 0, 1⟩, []⟩ := by decide
  refine ⟨⟨_, accepted, rfl, by decide⟩, ⟨_, by rfl, fun _ => ⟨by rfl, _, by rfl⟩⟩,
    fun usable => ?_⟩
  exact (usable _ (.ofCidr accepted)).used.2 rfl

end IpConfiguration

end Uplink
