import Uplink.IpConfiguration.Basic

/-!
# The configurations that there are

A configuration is not put together at will: it comes from its three addresses or from a text, both
of which are checked, and its name servers are replaced only by some that are accepted.

## Main definitions

- `IpConfiguration.Made`: how a configuration can have come about.

## Main results

- `IpConfiguration.Made.address_isAny`: its address is not zero.
-/

namespace Uplink.IpConfiguration

variable {address mask gateway : Address} {c d : IpConfiguration}

/-- How a configuration can have come about. -/
inductive Made : IpConfiguration → Prop
  | make {address mask gateway : Address} {c : IpConfiguration}
      (accepted : IpConfiguration.make address mask gateway = .ok c) : Made c
  | ofCidr {cidr : String} {gateway : Address} {c : IpConfiguration}
      (accepted : IpConfiguration.ofCidr cidr gateway = .ok c) : Made c
  | withServers {c d : IpConfiguration} {servers : List Address} (made : Made c)
      (accepted : c.withServers servers = .ok d) : Made d

theorem make_eq_ok (accepted : make address mask gateway = .ok c) :
    address.isAny = false ∧ c = ⟨address, mask, gateway, []⟩ := by
  unfold make at accepted
  split at accepted
  · cases accepted
  · rename_i used
    split at accepted
    · cases accepted
    · exact ⟨Bool.eq_false_iff.mpr used, (Except.ok.inj accepted).symm⟩

/-- Two steps are accepted one after the other. -/
theorem exists_of_bind_eq_ok {E A B : Type} {first : Except E A} {second : A → Except E B} {b : B}
    (accepted : (first >>= second) = .ok b) : ∃ a, first = .ok a ∧ second a = .ok b := by
  cases first with
  | error e => cases accepted
  | ok a => exact ⟨a, rfl, accepted⟩

/-- What goes wrong in two steps goes wrong in the first, or in the second after it. -/
theorem of_bind_eq_error {E A B : Type} {first : Except E A} {second : A → Except E B} {e : E}
    (refused : (first >>= second) = .error e) :
    first = .error e ∨ ∃ a, first = .ok a ∧ second a = .error e := by
  cases first with
  | error e' =>
    cases refused
    exact .inl rfl
  | ok a => exact .inr ⟨a, rfl, refused⟩

/-- A text that is accepted gives the parts of a configuration. -/
theorem make_of_ofCidr {cidr : String} (accepted : ofCidr cidr gateway = .ok c) :
    ∃ address mask, make address mask gateway = .ok c := by
  unfold ofCidr at accepted
  split at accepted
  · obtain ⟨address, -, accepted⟩ := exists_of_bind_eq_ok accepted
    simp only at accepted
    split at accepted
    · obtain ⟨length, -, accepted⟩ := exists_of_bind_eq_ok accepted
      obtain ⟨mask, -, accepted⟩ := exists_of_bind_eq_ok accepted
      exact ⟨address, mask, accepted⟩
    · cases accepted
  · cases accepted

theorem withServers_eq_ok {servers : List Address} (accepted : c.withServers servers = .ok d) :
    servers.length ≤ maxServers ∧ d = { c with servers } := by
  unfold withServers at accepted
  split at accepted
  · cases accepted
  · exact ⟨by omega, (Except.ok.inj accepted).symm⟩

/-- The address of a configuration is not zero. -/
theorem Made.address_isAny (made : Made c) : c.address.isAny = false := by
  induction made with
  | make accepted =>
    obtain ⟨used, rfl⟩ := make_eq_ok accepted
    exact used
  | ofCidr accepted =>
    obtain ⟨_, _, accepted⟩ := make_of_ofCidr accepted
    obtain ⟨used, rfl⟩ := make_eq_ok accepted
    exact used
  | withServers _ accepted ih =>
    obtain ⟨-, rfl⟩ := withServers_eq_ok accepted
    exact ih

end Uplink.IpConfiguration
