import Uplink.Cli.Parse
import Uplink.Proofs.IpConfiguration

/-!
# What a command line can ask for

Whether gateway and name servers need a static address is asked at the end, of the options that were
noted and not of their values. So it has to be kept along the way that no value is without its note.

## Main definitions

- `Draft.Noted`: the values that need a static address are noted among the options.

## Main results

- `Draft.Noted.take`: a mark that is taken leaves it so.
- `CommandLine.needs_of_parse`: a wait that a command line asks for has a gateway or name
  servers only with a static address.
-/

namespace Uplink.Cli

open IpConfiguration (exists_of_bind_eq_ok)

namespace Draft

/-- A gateway and name servers are noted as options that were given. -/
structure Noted (d : Draft) : Prop where
  gateway : d.options.gateway ≠ none → .gateway ∈ d.given
  servers : d.options.servers ≠ [] → .server ∈ d.given

variable {c : Subcommand} {d d' : Draft} {f : Flag}

theorem noted_empty : Noted {} :=
  ⟨fun some => (some rfl).elim, fun some => (some rfl).elim⟩

/-- An option that is given once is noted, and nothing else changes. -/
theorem eq_of_once (accepted : d.once f = .ok d') : d' = { d with given := f :: d.given } := by
  unfold once at accepted
  split at accepted
  · cases accepted
  · exact (Except.ok.inj accepted).symm

/-- More notes do no harm. -/
theorem Noted.mono (noted : d.Noted) (gateway : d'.options.gateway = d.options.gateway)
    (servers : d'.options.servers = d.options.servers) (given : d.given ⊆ d'.given) : d'.Noted :=
  ⟨fun some => given (noted.gateway (gateway ▸ some)),
    fun some => given (noted.servers (servers ▸ some))⟩

/-- An option with a value. -/
theorem Noted.takeValue (noted : d.Noted) {v : String} (accepted : d.takeValue f v = .ok d') :
    d'.Noted := by
  cases f with
  | staticAddress =>
    obtain ⟨e, once, same⟩ := exists_of_bind_eq_ok accepted
    obtain rfl := eq_of_once once
    cases same
    exact noted.mono rfl rfl (List.subset_cons_self _ _)
  | gateway =>
    obtain ⟨e, once, accepted⟩ := exists_of_bind_eq_ok accepted
    obtain ⟨a, -, same⟩ := exists_of_bind_eq_ok accepted
    obtain rfl := eq_of_once once
    cases same
    exact ⟨fun _ => List.mem_cons_self, fun some => List.mem_cons_of_mem _ (noted.servers some)⟩
  | server =>
    obtain ⟨a, -, same⟩ := exists_of_bind_eq_ok accepted
    cases same
    exact ⟨fun some => List.mem_cons_of_mem _ (noted.gateway some), fun _ => List.mem_cons_self⟩
  | minYear | timeout | interfaceKind =>
    obtain ⟨e, once, accepted⟩ := exists_of_bind_eq_ok accepted
    obtain ⟨a, -, same⟩ := exists_of_bind_eq_ok accepted
    obtain rfl := eq_of_once once
    cases same
    exact noted.mono rfl rfl (List.subset_cons_self _ _)
  | help | verbose | requireClock | events | apply =>
    cases accepted
    exact noted

/-- An option without one. -/
theorem Noted.takeFlag (noted : d.Noted) (accepted : d.takeFlag f = .ok d') : d'.Noted := by
  cases f with
  | verbose =>
    cases accepted
    exact noted.mono rfl rfl (List.Subset.refl _)
  | requireClock | events | apply =>
    obtain ⟨e, once, same⟩ := exists_of_bind_eq_ok accepted
    obtain rfl := eq_of_once once
    cases same
    exact noted.mono rfl rfl (List.subset_cons_self _ _)
  | help | staticAddress | gateway | server | minYear | timeout | interfaceKind => cases accepted

/-- Any mark of a subcommand. -/
theorem Noted.take (noted : d.Noted) {m : Mark} (accepted : d.take c m = .ok d') : d'.Noted := by
  cases m with
  | option f value =>
    cases value with
    | some v => exact noted.takeValue accepted
    | none => exact noted.takeFlag accepted
  | operand v =>
    cases c with
    | encode =>
      obtain ⟨e, -, same⟩ := exists_of_bind_eq_ok accepted
      cases same
      exact noted.mono rfl rfl (List.Subset.refl _)
    | interfaces | wait | decode =>
      cases accepted
      exact noted.mono rfl rfl (List.Subset.refl _)

/-- All marks of a subcommand. -/
theorem Noted.takeAll (noted : d.Noted) {marks : List Mark}
    (accepted : marks.foldlM (Draft.take c) d = .ok d') : d'.Noted := by
  induction marks generalizing d with
  | nil =>
    cases accepted
    exact noted
  | cons m marks ih =>
    rw [List.foldlM_cons] at accepted
    obtain ⟨e, first, rest⟩ := exists_of_bind_eq_ok accepted
    exact ih (noted.take first) rest

/-- What is noted is asked for in the end. -/
theorem Noted.finish (noted : d.Noted) {o : WaitOptions} (accepted : d.finish .wait = .ok (.wait o))
    (automatic : o.staticAddress = none) : o.gateway = none ∧ o.servers = [] := by
  unfold Draft.finish at accepted
  dsimp only at accepted
  split at accepted
  next => cases accepted
  next free =>
    cases accepted
    simp only [automatic, Option.isNone_none, Bool.and_true, Bool.or_eq_true,
      List.contains_iff_mem, not_or] at free
    exact ⟨Classical.byContradiction fun some => free.1 (noted.gateway some),
      Classical.byContradiction fun some => free.2 (noted.servers some)⟩

/-- Only its own subcommand asks for a wait. -/
theorem eq_wait_of_finish {o : WaitOptions} (accepted : d.finish c = .ok (.wait o)) : c = .wait := by
  unfold Draft.finish at accepted
  cases c with
  | wait => rfl
  | interfaces => cases accepted
  | encode | decode =>
    dsimp only at accepted
    split at accepted <;> cases accepted

end Draft

namespace CommandLine

variable {arguments : List String} {line : CommandLine} {o : WaitOptions}

/-- A wait that the arguments of a subcommand ask for. -/
theorem needs_of_readSubcommand {outer : Nat} {c : Subcommand}
    (accepted : readSubcommand outer c arguments = .ok line) (waits : line.command = .wait o)
    (automatic : o.staticAddress = none) : o.gateway = none ∧ o.servers = [] := by
  obtain ⟨d, taken, accepted⟩ := exists_of_bind_eq_ok accepted
  have noted : d.Noted := Draft.noted_empty.takeAll taken
  cases stop : (Marks.read c arguments).stop with
  | some s =>
    rw [stop] at accepted
    cases accepted
  | none =>
    rw [stop] at accepted
    obtain ⟨command, finished, same⟩ := exists_of_bind_eq_ok accepted
    cases same
    obtain rfl : command = .wait o := waits
    obtain rfl := Draft.eq_wait_of_finish finished
    exact noted.finish finished automatic

/-- A wait that a command line asks for has a gateway or name servers only with a static address. -/
theorem needs_of_parse (accepted : parse arguments = .ok line) (waits : line.command = .wait o)
    (automatic : o.staticAddress = none) : o.gateway = none ∧ o.servers = [] := by
  suffices read : ∀ verbosity divided, readFrom verbosity divided arguments = .ok line →
      o.gateway = none ∧ o.servers = [] from read 0 false accepted
  clear accepted
  induction arguments with
  | nil =>
    intro verbosity divided accepted
    cases accepted
  | cons s rest ih =>
    intro verbosity divided accepted
    unfold readFrom at accepted
    split at accepted
    · cases accepted
    split at accepted
    · cases accepted
    split at accepted
    next => exact needs_of_readSubcommand accepted waits automatic
    next => exact ih _ _ accepted
    next =>
      split at accepted
      · cases accepted
      · cases accepted
      · obtain ⟨d, -, later⟩ := exists_of_bind_eq_ok accepted
        exact ih _ _ later
    next =>
      obtain ⟨d, -, later⟩ := exists_of_bind_eq_ok accepted
      split at later
      · exact ih _ _ later
      · cases later
    next => cases accepted

end CommandLine

end Uplink.Cli
