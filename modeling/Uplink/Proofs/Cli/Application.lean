import Uplink.Cli.Session
import Uplink.Proofs.Cli.Parse
import Uplink.Proofs.IpConfiguration.Cidr
import Uplink.Proofs.Readiness.Deployment

/-!
# From the command line to the host

The prefix of a static address is typed as a number. On its way it becomes a byte, a shifted word, a
packed address and the bits of a mask, and in the end a number again, in the argument of a program.
The last of these steps is somebody else's, and it is relied upon to count ones. Here the two ends
are put side by side: what is typed, and what is run.

## Main definitions

- `WaitOptions.Asks`: the programs that are to be run for what was typed.

## Main results

- `WaitOptions.exists_programs`: the configuration that is made of the options asks for them.
- `Session.wait_of_error`: with a refused configuration nothing is run, and the error is told.
- `typed_is_applied`: a coordinator on a host runs them, and no others.
-/

namespace Uplink.Cli

open Host (Invocation MachineInterface PrefixFinder Probes Shell StandIns)
open Readiness

namespace WaitOptions

/-- A route is set if a gateway other than zero was given. -/
def routing (o : WaitOptions) (name : String) : List Invocation :=
  match o.gateway with
  | some gateway => if gateway.value = 0 then [] else [.route name gateway.text]
  | none => []

/-- The address that was typed is given to the interface, in place of all that it had. -/
def addressing (o : WaitOptions) (q : Quad) (n : Nat) (name : String) : List Invocation :=
  [.flush name, .add name q.text n] ++ o.routing name

/-- The name servers are set in the order in which they were given, or else taken back. -/
def naming (o : WaitOptions) (name : String) : List Invocation :=
  if o.servers = [] then [.revert name] else [.serve name (o.servers.map Address.text)]

/-- The programs that are to be run for what was typed, if an interface has this name. -/
inductive Asks (o : WaitOptions) (name : String) : List Invocation → Prop
  | static {cidr : String} {q : Quad} {n : Nat} (given : o.staticAddress = some cidr)
      (typed : IpConfiguration.IsCidrOf q n cidr) :
      Asks o name (o.addressing q n name ++ o.naming name)
  | automatic (none : o.staticAddress = none) : Asks o name [.lease name, .revert name]

variable {o : WaitOptions}

/-- What was typed asks for one list of programs only. -/
theorem Asks.unique {name : String} {programs others : List Invocation}
    (asks : o.Asks name programs) (asks' : o.Asks name others) : programs = others := by
  cases asks with
  | static given typed =>
    cases asks' with
    | static given' typed' =>
      cases given.symm.trans given'
      obtain ⟨rfl, rfl⟩ := typed.unique typed'
      rfl
    | automatic none => cases given.symm.trans none
  | automatic none =>
    cases asks' with
    | static given typed => cases given.symm.trans none
    | automatic => rfl

/-- The address that is typed has one mask, in which the number that was typed is found again. -/
theorem prescribes_staticAddress {finder : PrefixFinder} (counts : finder.Counts) (o : WaitOptions)
    (q : Quad) {n : Nat} {mask : Address} (few : n ≤ 32)
    (masked : Mask.ofPrefix (.ofNat n) = .ok mask) (name : String) :
    NetworkCommand.Prescribes finder
      (.staticAddress name (.ofOctets q) mask (o.gateway.getD .any)) (o.addressing q n name) := by
  obtain ⟨-, ours, counted⟩ := Mask.prefixLength?_of_ofPrefix masked
  have family : mask.family = .internet := beq_iff_eq.mp ours
  have found : finder mask.octets = .ok (.ofNat n) :=
    (counts mask.octets _).mpr (Mask.prefixLength?_eq_some_iff.mp counted)
  rw [addressing, ← Address.text_ofOctets, ← Mask.toNat_ofNat few]
  cases given : o.gateway with
  | none =>
    rw [routing, given]
    exact .unrouted family found rfl
  | some gateway =>
    rw [routing, given, Option.getD_some]
    by_cases zero : gateway.value = 0
    · simp only [zero, if_true, List.append_nil]
      exact .unrouted family found zero
    · simp only [zero, if_false]
      exact .routed family found zero

/-- The configuration that is made of the options asks for what was typed. -/
theorem exists_programs {finder : PrefixFinder} (counts : finder.Counts)
    {wanted : Option IpConfiguration} (accepted : o.configuration = .ok wanted) (mode : Mode)
    (requiresClock : Bool) :
    ∃ l : Setup.Programs finder ⟨mode, wanted, requiresClock⟩,
      ∀ name, o.Asks name (l.all name) := by
  unfold configuration at accepted
  split at accepted
  next none =>
    cases accepted
    exact ⟨⟨fun name => [.lease name], fun name => [.revert name], fun _ => .dhcp,
      fun _ => .automaticServers⟩, fun _ => .automatic none⟩
  next cidr given =>
    obtain ⟨base, read, accepted⟩ := IpConfiguration.exists_of_bind_eq_ok accepted
    obtain ⟨q, n, mask, typed, masked, rfl⟩ := IpConfiguration.ofCidr_eq_ok_iff.mp read
    cases served : IpConfiguration.withServers ⟨.ofOctets q, mask, o.gateway.getD .any, []⟩ o.servers
      with
    | error e => simp [served] at accepted
    | ok c =>
      obtain ⟨-, rfl⟩ := IpConfiguration.withServers_eq_ok served
      simp only [served] at accepted
      cases accepted
      refine ⟨⟨o.addressing q n, o.naming, o.prescribes_staticAddress counts q typed.few masked,
        fun name => ?_⟩, fun name => .static given typed⟩
      simp only [Caller.serversCommand, naming, List.isEmpty_iff]
      split
      · exact .automaticServers
      · exact .staticServers

/-- More than two name servers are refused. -/
theorem configuration_eq_error {cidr : String} (given : o.staticAddress = some cidr)
    (many : 2 < o.servers.length) : ∃ e, o.configuration = .error e := by
  simp only [configuration, given]
  cases IpConfiguration.ofCidr cidr (o.gateway.getD .any) with
  | error e => exact ⟨e, rfl⟩
  | ok base =>
    have refused : base.withServers o.servers =
        .error (.invalidConfiguration (.tooManyServers maxServers o.servers.length)) :=
      if_pos many
    exact ⟨_, by simp only [bind, Except.bind, refused]; rfl⟩

end WaitOptions

/-- A command line gives more than two name servers only with a static address, so they are refused
whatever else it gives. -/
theorem CommandLine.configuration_eq_error {arguments : List String} {line : CommandLine}
    {o : WaitOptions} (accepted : parse arguments = .ok line) (waits : line.command = .wait o)
    (many : 2 < o.servers.length) : ∃ e, o.configuration = .error e := by
  cases given : o.staticAddress with
  | none =>
    obtain ⟨-, empty⟩ := needs_of_parse accepted waits given
    simp [empty] at many
  | some cidr => exact WaitOptions.configuration_eq_error given many

/-- If the configuration is refused, no program is run, and the wait ends with that error. -/
theorem Session.wait_of_error {o : WaitOptions} {e : CodecError}
    (refused : o.configuration = .error e) (s : Surroundings) :
    (wait s o).calls = [] ∧ (wait s o).result = .error (codecChain e) := by
  simp only [wait, refused, and_self]

/-- What is typed is what is applied. More than two name servers are refused, and with a refused
configuration nothing is run and the wait fails. Any other asks for one list of programs, and a
coordinator without resets on a host on which all programs succeed and the ones of masks are counted
runs them and nothing else, in their order, for an interface that the host has shown as the first
one of the target kind. Once its caller has taken eight turns it has run them all; or the host showed
no interface of that kind at some moment, or refused a listener, and nothing was run. That nothing
else was run is told by the shell, which is left as just these programs leave it. -/
theorem typed_is_applied (o : WaitOptions) :
    (∀ cidr, o.staticAddress = some cidr → 2 < o.servers.length →
      ∃ e, o.configuration = .error e) ∧
    (∀ arguments line, CommandLine.parse arguments = .ok line → line.command = .wait o →
      2 < o.servers.length → ∃ e, o.configuration = .error e) ∧
    (∀ e, o.configuration = .error e → ∀ s,
      (Session.wait s o).calls = [] ∧ (Session.wait s o).result = .error (Session.codecChain e)) ∧
    (∀ name programs others, o.Asks name programs → o.Asks name others → programs = others) ∧
    ∀ {S : Type} (cfg : Config) (p : Probes) (finder : PrefixFinder) (shell : Shell S)
      (d d' : Deployment S) (i : Nat) (wanted : Option IpConfiguration) (mode : Mode)
      (requiresClock : Bool) (es : List (Occurrence cfg)), finder.Counts →
      (∀ s i, (shell.run s i).2.isSuccess = true) → o.configuration = .ok wanted →
      d.Begins i ⟨mode, wanted, requiresClock⟩ es → d.run? p finder shell es = some d' →
      d'.shell = shell.after d.shell d'.tried ∧
      (d'.tried = [] ∨ ∃ name programs, d.Shows p finder shell es name ∧ o.Asks name programs ∧
        d'.tried <+: programs) ∧
      (8 ≤ es.countP (·.isTurnOf i) →
        (∃ name, d.Shows p finder shell es name ∧ o.Asks name d'.tried) ∨
          d.Hinders p finder shell es ∧ d'.tried = []) := by
  refine ⟨fun cidr given many => WaitOptions.configuration_eq_error given many,
    fun arguments line accepted waits many =>
      CommandLine.configuration_eq_error accepted waits many,
    fun e refused s => Session.wait_of_error refused s,
    fun name programs others => WaitOptions.Asks.unique,
    fun cfg p finder shell d d' i wanted mode requiresClock es counts succeeds accepted begins
      run => ⟨begins.left run, ?_⟩⟩
  obtain ⟨l, asks⟩ := WaitOptions.exists_programs counts accepted mode requiresClock
  obtain ⟨always, after⟩ := begins.tried succeeds l run
  refine ⟨always.imp_right ?_, fun many => (after many).imp_left ?_⟩
  · rintro ⟨name, shown, ran⟩
    exact ⟨name, l.all name, shown, asks name, ran⟩
  · rintro ⟨name, shown, ran⟩
    exact ⟨name, shown, ran ▸ asks name⟩

/-- A static address, a gateway and a name server were typed. -/
def typed : WaitOptions :=
  { staticAddress := some " 10.0.0.7/+031"
    gateway := some (.ofOctets ⟨10, 0, 0, 6⟩)
    servers := [.ofOctets ⟨9, 9, 9, 9⟩] }

/-- The setup that is made of them. -/
def typedSetup : Setup :=
  ⟨.polling, some ⟨.ofOctets ⟨10, 0, 0, 7⟩, .ofOctets ⟨255, 255, 255, 254⟩, .ofOctets ⟨10, 0, 0, 6⟩,
    [.ofOctets ⟨9, 9, 9, 9⟩]⟩, false⟩

/-- A shell that keeps the programs it has run, all of which succeed. -/
def obliging : Shell (List Invocation) := ⟨fun ran i => (ran ++ [i], .exited 0 [])⟩

/-- A coordinator that is called with this setup, on a host with one interface. -/
def deployed : Deployment (List Invocation) :=
  { system := System.join {} (.call typedSetup)
    network := { mode := .apply }
    machine := [⟨"eth0", 3, true, []⟩]
    shell := [] }

/-- The caller takes eight turns. -/
def eightTurns : List (Occurrence {}) :=
  [.step (.turn 0 (.caller (.claim typedSetup)) ()),
    .step (.turn 0 (.caller (.start typedSetup .polling)) ()),
    .step (.turn 0 (.caller (.find typedSetup .polling)) (.ok [⟨"eth0", .ethernet, .any, false⟩])),
    .step (.turn 0 (.caller (.assign typedSetup .polling "eth0")) (.ok ())),
    .step (.turn 0 (.caller (.setServers typedSetup .polling "eth0")) (.ok ())),
    .step (.turn 0 (.caller (.keepConfiguration typedSetup .polling)) ()),
    .step (.turn 0 (.caller (.settle typedSetup .polling)) ()),
    .step (.turn 0 (.caller (.checkToken typedSetup)) false)]

/-- The programs of a point-to-point address are run, and the shell has run nothing else. -/
theorem typed_is_applied_point_to_point :
    let p : Probes := ⟨fun _ => true, fun _ => false⟩
    let programs : List Invocation := [.flush "eth0", .add "eth0" "10.0.0.7" 31,
      .route "eth0" "10.0.0.6", .serve "eth0" ["9.9.9.9"]]
    typed.configuration = .ok typedSetup.configuration ∧
      ∃ d', deployed.run? p StandIns.finder obliging eightTurns = some d' ∧
        d'.tried = programs ∧ d'.shell = programs ∧
        d'.shell = obliging.after [] d'.tried ∧
        ((∃ name, deployed.Shows p StandIns.finder obliging eightTurns name ∧
            typed.Asks name d'.tried) ∨
          deployed.Hinders p StandIns.finder obliging eightTurns ∧ d'.tried = []) := by
  have accepted : typed.configuration = .ok typedSetup.configuration := rfl
  have begins : deployed.Begins 0 typedSetup eightTurns :=
    ⟨rfl, ⟨.fresh, by decide⟩, rfl, rfl, by decide⟩
  obtain ⟨-, -, -, -, applied⟩ := typed_is_applied typed
  obtain ⟨left, -, all⟩ := applied {} ⟨fun _ => true, fun _ => false⟩ StandIns.finder obliging
    deployed _ 0 _ _ _ eightTurns Host.StandIns.counts_finder (fun _ _ => rfl) accepted begins rfl
  exact ⟨accepted, _, rfl, rfl, rfl, left, all (by decide)⟩

end Uplink.Cli
