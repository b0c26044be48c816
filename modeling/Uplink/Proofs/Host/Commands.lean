import Mathlib.Data.List.Basic
import Uplink.Host.Network
import Uplink.Host.StandIn
import Uplink.Proofs.IpConfiguration.Mask

/-!
# Commands of a host's network

A command comes to a list of programs, which is run up to the first failure. The lists are written
out here once more, without the checks and branches that lead to them, and what a network does is
compared with them, for every way in which programs can end. That what is recorded is what was run
is seen from the shell: it keeps a state, and this has to be the one in which just those programs
leave it.

The length of the prefix of a mask is found by somebody else. For what becomes of a command it is
enough that whoever does so fails exactly on masks that are not contiguous; which length is found
for the others only matters to those who look for it in the arguments of a program.

## Main definitions

- `PrefixFinder.FailsOnGaps`, `PrefixFinder.Counts`: what can be asked of a finder of prefixes.
- `Shell.outcomes`, `Shell.after`: how programs end when they are run one after the other, and how
  they leave the shell.
- `Shell.StopsAtFirstFailure`: a list of programs was run whole, or up to the first that failed.
- `NetworkCommand.Prescribes`, `NetworkCommand.HasBadMask`: the programs of a command, and the
  commands that have none.
- `HostNetwork.performAll`, `Attempt`: commands one after the other.
- `CarriedOut`: what may become of a command.

## Main results

- `Shell.runAll_stops`, `Shell.runAll_error_iff`, `Shell.runAll_of_success`, `Shell.state_runAll`:
  running a list.
- `HostNetwork.plan_eq_ok_iff`, `HostNetwork.plan_eq_error_iff`: what a network plans.
- `HostNetwork.commands_stop_at_first_failure`: what becomes of commands in both modes.
-/

namespace Uplink

/-! ## Finding prefixes -/

namespace Host

namespace PrefixFinder

/-- It fails exactly on the masks whose bits are not ones followed by zeros. -/
def FailsOnGaps (finder : PrefixFinder) : Prop :=
  ∀ mask : Quad, (∃ reason, finder mask = .error reason) ↔
    ¬ ∃ n ≤ 32, Mask.bitList mask.highFirst = Mask.ones n

/-- It finds the number of ones of every mask whose bits are ones followed by zeros, and nothing for
all others. -/
def Counts (finder : PrefixFinder) : Prop :=
  ∀ (mask : Quad) (length : UInt8), finder mask = .ok length ↔
    length.toNat ≤ 32 ∧ Mask.bitList mask.highFirst = Mask.ones length.toNat

variable {finder : PrefixFinder}

/-- What counts ones fails where they have gaps. -/
theorem Counts.failsOnGaps (counts : finder.Counts) : finder.FailsOnGaps := by
  intro mask
  constructor
  · rintro ⟨reason, failed⟩ ⟨n, few, bits⟩
    have found : finder mask = .ok (.ofNat n) :=
      (counts mask _).mpr (by rw [Mask.toNat_ofNat few]; exact ⟨few, bits⟩)
    cases failed.symm.trans found
  · intro gaps
    cases outcome : finder mask with
    | error reason => exact ⟨reason, rfl⟩
    | ok length => exact (gaps ⟨_, (counts mask length).mp outcome⟩).elim

end PrefixFinder

/-- What stands in for a finder counts. -/
theorem StandIns.counts_finder : PrefixFinder.Counts StandIns.finder := by
  intro mask length
  have counted : Mask.prefixLength? (.ofOctets mask) = some length ↔
      length.toNat ≤ 32 ∧ Mask.bitList mask.highFirst = Mask.ones length.toNat := by
    rw [Mask.prefixLength?_eq_some_iff, Mask.bitsOf, Address.octets_ofOctets]
  rw [← counted, finder]
  cases Mask.prefixLength? (.ofOctets mask) <;> simp

end Host

/-! ## The programs of each command -/

namespace Host.Invocation

/-- Takes all addresses from an interface. -/
def flush (name : String) : Invocation := ⟨"ip", ["addr", "flush", "dev", name]⟩

/-- Gives an interface an address and the length of its prefix. -/
def add (name address : String) (length : Nat) : Invocation :=
  ⟨"ip", ["addr", "add", s!"{address}/{length}", "dev", name]⟩

/-- Sends what has no other route to a gateway. -/
def route (name gateway : String) : Invocation :=
  ⟨"ip", ["route", "replace", "default", "via", gateway, "dev", name]⟩

/-- Asks for an address, in the background. -/
def lease (name : String) : Invocation := ⟨"dhclient", ["-nw", name]⟩

/-- Gives an interface its name servers. -/
def serve (name : String) (servers : List String) : Invocation :=
  ⟨"resolvectl", ["dns", name] ++ servers⟩

/-- Takes an interface's name servers back. -/
def revert (name : String) : Invocation := ⟨"resolvectl", ["revert", name]⟩

end Host.Invocation

namespace NetworkCommand

open Host

/-- A static address whose mask no program can be given: it is of a foreign family, or its bits are
not ones followed by zeros. -/
def HasBadMask : NetworkCommand → Prop
  | .staticAddress _ _ mask _ => mask.family ≠ .internet ∨ ¬ Mask.IsContiguous mask
  | _ => False

/-- The programs that a command is to be carried out by, in order. The length of a prefix is the one
that is found for the mask. -/
inductive Prescribes (finder : PrefixFinder) : NetworkCommand → List Invocation → Prop
  | routed {name : String} {a mask gateway : Address} {length : UInt8}
      (ours : mask.family = .internet) (found : finder mask.octets = .ok length)
      (given : gateway.value ≠ 0) :
      Prescribes finder (.staticAddress name a mask gateway)
        [.flush name, .add name a.text length.toNat, .route name gateway.text]
  | unrouted {name : String} {a mask gateway : Address} {length : UInt8}
      (ours : mask.family = .internet) (found : finder mask.octets = .ok length)
      (none : gateway.value = 0) :
      Prescribes finder (.staticAddress name a mask gateway)
        [.flush name, .add name a.text length.toNat]
  | dhcp {name : String} : Prescribes finder (.dhcp name) [.lease name]
  | staticServers {name : String} {servers : List Address} :
      Prescribes finder (.staticServers name servers) [.serve name (servers.map Address.text)]
  | automaticServers {name : String} : Prescribes finder (.automaticServers name) [.revert name]

end NetworkCommand

namespace Host

/-! ## Running programs -/

namespace Outcome

/-- A program succeeds by ending with status zero. -/
def isSuccess : Outcome → Bool
  | .notStarted _ => false
  | .exited status _ => status == 0

/-- Everything else is a fault. -/
theorem fault?_eq_none_iff {o : Outcome} {i : Invocation} :
    o.fault? i = none ↔ o.isSuccess = true := by
  cases o with
  | notStarted reason => simp [fault?, isSuccess]
  | exited status errors => by_cases zero : status = 0 <;> simp [fault?, isSuccess, zero]

end Outcome

namespace Shell

variable {S : Type} (shell : Shell S)

/-- How programs end when they are run one after the other, whatever becomes of them. -/
def outcomes (s : S) : List Invocation → List Outcome
  | [] => []
  | i :: rest => (shell.run s i).2 :: outcomes (shell.run s i).1 rest

/-- The state in which a shell is left by programs, whatever becomes of them. -/
def after (s : S) : List Invocation → S
  | [] => s
  | i :: rest => after (shell.run s i).1 rest

/-- Of a list of programs these were run: all, or all up to and including the first that failed. -/
structure StopsAtFirstFailure (s : S) (programs tried : List Invocation) : Prop where
  started : tried <+: programs
  /-- All but the last one succeeded. -/
  before : ∀ o ∈ (shell.outcomes s tried).dropLast, o.isSuccess = true
  /-- Nothing is left out without a failure. -/
  stopped : tried = programs ∨ ∃ o ∈ (shell.outcomes s tried).getLast?, o.isSuccess = false

variable {shell} {s : S} {i : Invocation}

/-- What is run later finds the shell as what was run before has left it. -/
theorem after_append (s : S) (programs others : List Invocation) :
    shell.after s (programs ++ others) = shell.after (shell.after s programs) others := by
  induction programs generalizing s with
  | nil => rfl
  | cons i rest ih => exact ih _

theorem runAll_cons_of_failure (failed : (shell.run s i).2.isSuccess = false)
    (rest : List Invocation) :
    ∃ e, shell.runAll s (i :: rest) = ⟨(shell.run s i).1, [i], .error e⟩ := by
  cases fault : (shell.run s i).2.fault? i with
  | none => simp [Outcome.fault?_eq_none_iff.mp fault] at failed
  | some e => exact ⟨e, by simp [runAll, fault]⟩

theorem runAll_cons_of_success (succeeded : (shell.run s i).2.isSuccess = true)
    (rest : List Invocation) :
    shell.runAll s (i :: rest) =
      { shell.runAll (shell.run s i).1 rest with
        tried := i :: (shell.runAll (shell.run s i).1 rest).tried } := by
  simp [runAll, Outcome.fault?_eq_none_iff.mpr succeeded]

/-- A list is run whole, or up to the first failure. -/
theorem runAll_stops (s : S) (programs : List Invocation) :
    shell.StopsAtFirstFailure s programs (shell.runAll s programs).tried := by
  induction programs generalizing s with
  | nil => exact ⟨List.prefix_refl _, by simp [runAll, outcomes], .inl rfl⟩
  | cons i rest ih =>
    cases succeeded : (shell.run s i).2.isSuccess with
    | false =>
      obtain ⟨e, run⟩ := runAll_cons_of_failure succeeded rest
      rw [run]
      exact ⟨⟨rest, rfl⟩, by simp [outcomes], .inr ⟨_, by simp [outcomes], succeeded⟩⟩
    | true =>
      obtain ⟨started, before, stopped⟩ := ih (shell.run s i).1
      rw [runAll_cons_of_success succeeded]
      refine ⟨List.cons_prefix_cons.mpr ⟨rfl, started⟩, fun o mem => ?_, ?_⟩
      · cases others : shell.outcomes (shell.run s i).1 (shell.runAll (shell.run s i).1 rest).tried
          with
        | nil => simp [outcomes, others] at mem
        | cons o' os =>
          rw [outcomes, others, List.dropLast_cons_cons, List.mem_cons] at mem
          rcases mem with rfl | mem
          · exact succeeded
          · exact before o (others ▸ mem)
      · refine stopped.imp (congrArg (i :: ·)) ?_
        rintro ⟨o, last, failed⟩
        exact ⟨o, List.mem_getLast?_cons last, failed⟩

/-- An error says that a program that was run failed. -/
theorem runAll_error_iff (s : S) (programs : List Invocation) :
    (∃ e, (shell.runAll s programs).result = .error e) ↔
      ∃ o ∈ shell.outcomes s (shell.runAll s programs).tried, o.isSuccess = false := by
  induction programs generalizing s with
  | nil => simp [runAll, outcomes]
  | cons i rest ih =>
    cases succeeded : (shell.run s i).2.isSuccess with
    | false =>
      obtain ⟨e, run⟩ := runAll_cons_of_failure succeeded rest
      simp [run, outcomes, succeeded]
    | true =>
      rw [runAll_cons_of_success succeeded]
      simpa [outcomes, succeeded] using ih (shell.run s i).1

/-- The shell is left as the programs that were tried leave it: these were run, and no others. -/
theorem state_runAll (s : S) (programs : List Invocation) :
    (shell.runAll s programs).state = shell.after s (shell.runAll s programs).tried := by
  induction programs generalizing s with
  | nil => rfl
  | cons i rest ih =>
    cases succeeded : (shell.run s i).2.isSuccess with
    | false =>
      obtain ⟨e, run⟩ := runAll_cons_of_failure succeeded rest
      rw [run]
      rfl
    | true =>
      rw [runAll_cons_of_success succeeded]
      exact ih _

/-- Where all programs succeed, a list is run whole. -/
theorem runAll_of_success (succeeds : ∀ s i, (shell.run s i).2.isSuccess = true) (s : S)
    (programs : List Invocation) :
    (shell.runAll s programs).tried = programs ∧ (shell.runAll s programs).result = .ok () := by
  induction programs generalizing s with
  | nil => exact ⟨rfl, rfl⟩
  | cons i rest ih =>
    obtain ⟨tried, result⟩ := ih (shell.run s i).1
    rw [runAll_cons_of_success (succeeds s i)]
    exact ⟨congrArg (i :: ·) tried, result⟩

end Shell

/-! ## Planning -/

namespace HostNetwork

open NetworkCommand

variable {finder : PrefixFinder} {c : NetworkCommand} {programs : List Invocation}

/-- The third program is there for a gateway only. -/
theorem planAddress_eq (name : String) (a : Address) (length : UInt8) (gateway : Address) :
    planAddress name a length gateway =
      [.flush name, .add name a.text length.toNat] ++
        if gateway.value = 0 then [] else [.route name gateway.text] := by
  simp only [planAddress, Invocation.flush, Invocation.add, Invocation.route, Address.isAny,
    beq_iff_eq]

/-- A static address is planned by its mask. -/
theorem plan_staticAddress {name : String} {a mask gateway : Address} :
    plan finder (.staticAddress name a mask gateway) =
      if mask.family = .internet then
        match finder mask.octets with
        | .error reason => .error (.noPrefix reason)
        | .ok length => .ok (planAddress name a length gateway)
      else .error .foreignMask := by
  by_cases ours : mask.family = .internet
  · cases found : finder mask.octets <;> simp [plan, Address.isIPv4, ours, found]
  · simp [plan, Address.isIPv4, ours]

/-- A network plans the programs of a command. -/
theorem plan_eq_ok_iff : plan finder c = .ok programs ↔ Prescribes finder c programs := by
  constructor
  · intro planned
    cases c with
    | staticAddress name a mask gateway =>
      rw [plan_staticAddress] at planned
      split at planned
      next ours =>
        split at planned
        · cases planned
        next length found =>
          cases planned
          rw [planAddress_eq]
          split
          next none => exact .unrouted ours found none
          next given => exact .routed ours found given
      next => cases planned
    | dhcp name =>
      cases planned
      exact .dhcp
    | staticServers name servers =>
      cases planned
      exact .staticServers
    | automaticServers name =>
      cases planned
      exact .automaticServers
  · intro prescribed
    cases prescribed with
    | routed ours found given =>
      simp [plan_staticAddress, ours, found, planAddress_eq, given]
    | unrouted ours found none =>
      simp [plan_staticAddress, ours, found, planAddress_eq, none]
    | dhcp | staticServers | automaticServers => rfl

/-- A network plans nothing for a bad mask, and for nothing else. -/
theorem plan_eq_error_iff (fails : finder.FailsOnGaps) :
    (∃ fault, plan finder c = .error fault) ↔ c.HasBadMask := by
  cases c with
  | staticAddress name a mask gateway =>
    have gaps : (∃ reason, finder mask.octets = .error reason) ↔ ¬ Mask.IsContiguous mask :=
      fails mask.octets
    rw [HasBadMask, ← gaps, plan_staticAddress]
    by_cases ours : mask.family = .internet
    · cases found : finder mask.octets <;> simp [ours]
    · simp [ours]
  | dhcp name => simp [plan, HasBadMask]
  | staticServers name servers => simp [plan, HasBadMask]
  | automaticServers name => simp [plan, HasBadMask]

end HostNetwork

/-! ## Carrying commands out -/

/-- A command, the network and the shell that it met, and what came of it. -/
structure Attempt (S : Type) where
  network : HostNetwork
  shell : S
  command : NetworkCommand
  performance : Performance S

/-- Whether what came of a command is an error. -/
def Attempt.Failed {S : Type} (t : Attempt S) : Prop := ∃ e, t.performance.result = .error e

/-- Commands one after the other. -/
def HostNetwork.performAll {S : Type} (h : HostNetwork) (finder : PrefixFinder) (shell : Shell S)
    (s : S) : List NetworkCommand → List (Attempt S)
  | [] => []
  | c :: rest =>
    let performance := h.perform finder shell s c
    ⟨h, s, c, performance⟩ :: performance.network.performAll finder shell performance.shell rest

/-- What may become of a command that is carried out. -/
structure CarriedOut {S : Type} (finder : PrefixFinder) (shell : Shell S) (t : Attempt S) :
    Prop where
  /-- Nothing is run for a bad mask, and otherwise the command's own programs. -/
  ran : (t.command.HasBadMask ∧ t.performance.tried = []) ∨
    ∃ programs, t.command.Prescribes finder programs ∧
      shell.StopsAtFirstFailure t.shell programs t.performance.tried
  /-- The shell is left as these programs leave it, so that no others were run. -/
  left : t.performance.shell = shell.after t.shell t.performance.tried
  failed_iff : t.Failed ↔ t.command.HasBadMask ∨
    ∃ o ∈ shell.outcomes t.shell t.performance.tried, o.isSuccess = false

namespace HostNetwork

variable {S : Type} {h : HostNetwork} {finder : PrefixFinder} {shell : Shell S} {s : S}
  {c : NetworkCommand} {cs : List NetworkCommand} {t : Attempt S}

@[simp] theorem mode_note (h : HostNetwork) (c : NetworkCommand) : (h.note c).mode = h.mode := by
  cases c <;> rfl

/-- Whatever becomes of a command, it is noted. -/
@[simp] theorem network_perform : (h.perform finder shell s c).network = h.note c := by
  unfold perform
  split
  · rfl
  · split <;> rfl

/-- Whatever becomes of a command, the shell is left as the programs that were tried leave it. -/
theorem shell_perform :
    (h.perform finder shell s c).shell = shell.after s (h.perform finder shell s c).tried := by
  unfold perform
  split
  · rfl
  · split
    · rfl
    · exact Shell.state_runAll s _

/-- Every attempt is a command to some network of the same mode. -/
theorem eq_perform_of_mem (mem : t ∈ h.performAll finder shell s cs) :
    t.network.mode = h.mode ∧ t.performance = t.network.perform finder shell t.shell t.command := by
  induction cs generalizing h s with
  | nil => cases mem
  | cons c rest ih =>
    rcases List.mem_cons.mp mem with rfl | later
    · exact ⟨rfl, rfl⟩
    · simpa using ih later

/-- Every command is attempted. -/
theorem command_performAll : (h.performAll finder shell s cs).map (·.command) = cs := by
  induction cs generalizing h s with
  | nil => rfl
  | cons c rest ih => simp [performAll, ih]

/-- Every command finds the shell as the programs of those before it have left it. -/
theorem shell_of_split {before later : List (Attempt S)}
    (split : h.performAll finder shell s cs = before ++ t :: later) :
    t.shell = shell.after s (before.flatMap (·.performance.tried)) := by
  induction cs generalizing h s before with
  | nil => simp [performAll] at split
  | cons c rest ih =>
    cases before with
    | nil =>
      obtain ⟨rfl, -⟩ := List.cons_eq_cons.mp split
      rfl
    | cons first before =>
      obtain ⟨rfl, same⟩ := List.cons_eq_cons.mp split
      rw [ih same, shell_perform, List.flatMap_cons, Shell.after_append]

/-- Observing, nothing is run. -/
theorem perform_observe (observing : h.mode = .observe) :
    (h.perform finder shell s c).tried = [] ∧ (h.perform finder shell s c).shell = s ∧
      (h.perform finder shell s c).result = .ok () := by
  simp [perform, observing]

/-- Applying, a command is carried out. -/
theorem perform_apply (fails : finder.FailsOnGaps) (applying : h.mode = .apply) (shell : Shell S)
    (s : S) (c : NetworkCommand) :
    CarriedOut finder shell ⟨h, s, c, h.perform finder shell s c⟩ := by
  cases planned : plan finder c with
  | error fault =>
    have bad := (plan_eq_error_iff fails).mp ⟨fault, planned⟩
    have performed : h.perform finder shell s c =
        ⟨h.note c, s, [], [], .error (.ofMessage fault.message)⟩ := by
      simp [perform, applying, planned]
    exact ⟨.inl ⟨bad, by rw [performed]⟩, shell_perform,
      iff_of_true ⟨_, by rw [performed]⟩ (.inl bad)⟩
  | ok programs =>
    have good : ¬ c.HasBadMask := by
      rw [← plan_eq_error_iff fails]
      simp [planned]
    have tried : (h.perform finder shell s c).tried = (shell.runAll s programs).tried := by
      simp [perform, applying, planned]
    have result : (h.perform finder shell s c).result = (shell.runAll s programs).result := by
      simp [perform, applying, planned]
    refine ⟨.inr ⟨programs, plan_eq_ok_iff.mp planned, ?_⟩, shell_perform, ?_⟩
    · rw [tried]
      exact Shell.runAll_stops s programs
    · rw [Attempt.Failed, result, tried, Shell.runAll_error_iff, or_iff_right good]

/-- Applying, where all programs succeed, a command runs what it is to be carried out by. -/
theorem perform_of_success (applying : h.mode = .apply)
    (succeeds : ∀ s i, (shell.run s i).2.isSuccess = true) {programs : List Invocation}
    (prescribed : c.Prescribes finder programs) (s : S) :
    (h.perform finder shell s c).tried = programs ∧
      (h.perform finder shell s c).result = .ok () := by
  have planned := plan_eq_ok_iff.mpr prescribed
  obtain ⟨tried, result⟩ := Shell.runAll_of_success succeeds s programs
  simp only [perform, applying, planned]
  exact ⟨tried, result⟩

/-- Every command finds the shell as the programs of those before it have left it. Applying, it runs
its own programs up to the first failure and nothing else, and it fails exactly if one of them did
or its mask is bad. Observing, no command runs anything or fails. -/
theorem commands_stop_at_first_failure (fails : finder.FailsOnGaps) (h : HostNetwork)
    (shell : Shell S) (s : S) (cs : List NetworkCommand) :
    (h.performAll finder shell s cs).map (·.command) = cs ∧
      (∀ before t later, h.performAll finder shell s cs = before ++ t :: later →
        t.shell = shell.after s (before.flatMap (·.performance.tried))) ∧
      (h.mode = .apply → ∀ t ∈ h.performAll finder shell s cs, CarriedOut finder shell t) ∧
      (h.mode = .observe → ∀ t ∈ h.performAll finder shell s cs,
        t.performance.tried = [] ∧ t.performance.shell = t.shell ∧
          t.performance.result = .ok ()) := by
  refine ⟨command_performAll, fun before t later => shell_of_split, fun applying t mem => ?_,
    fun observing t mem => ?_⟩
  · obtain ⟨mode, performed⟩ := eq_perform_of_mem mem
    have carriedOut := perform_apply fails (mode.trans applying) shell t.shell t.command
    rwa [← performed] at carriedOut
  · obtain ⟨mode, performed⟩ := eq_perform_of_mem mem
    rw [performed]
    exact perform_observe (mode.trans observing)

/-- The second of three programs fails, so the route stays as it was; then a lease is asked for. -/
theorem commands_stop_at_first_failure_second :
    let s : StandIns := { script := { failing := [⟨"ip", 2, 2, []⟩] } }
    let cs : List NetworkCommand := [.staticAddress "eth0" (.ofOctets ⟨10, 0, 0, 7⟩)
      (.ofOctets ⟨255, 255, 254, 0⟩) (.ofOctets ⟨10, 0, 0, 1⟩), .dhcp "eth0"]
    let h : HostNetwork := { mode := .apply }
    let ts := h.performAll StandIns.finder StandIns.shell s cs
    ts.map (·.performance.tried) =
        [[.flush "eth0", .add "eth0" "10.0.0.7" 23], [.lease "eth0"]] ∧
      ts.map (·.performance.result.toBool) = [false, true] ∧
      ts.getLast?.map (·.performance.shell.calls) =
        some [.flush "eth0", .add "eth0" "10.0.0.7" 23, .lease "eth0"] ∧
      ∀ t ∈ ts, CarriedOut StandIns.finder StandIns.shell t :=
  ⟨by decide +kernel, by decide +kernel, by decide +kernel,
    (commands_stop_at_first_failure StandIns.counts_finder.failsOnGaps { mode := .apply }
      StandIns.shell _ _).2.2.1 rfl⟩

end HostNetwork

end Host

end Uplink
