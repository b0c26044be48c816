import Uplink.Proofs.Host.Commands
import Uplink.Proofs.Readiness.Admission
import Uplink.Proofs.Readiness.Following

/-!
# A coordinator on a host

The replies to a coordinator's looks and commands are those of a host's network here, and what the
commands run is written down. Everything else is left open: who takes the next turn, what the machine
shows, who else deals with the network, whether a listener can be registered, and what the clock and
the token say.

Only the caller that is admitted gives commands, and it gives them at two places. So the programs
that were run can be told from the place where it stands. They are told from a record; that nothing
else was run is seen from the state of the shell, which tallies with the record at every moment.

## Main definitions

- `Deployment`: a coordinator, its host, and the programs that were run.
- `Occurrence`, `Deployment.after?`: one thing that happens, and what it leads to.
- `Deployment.Tallies`: the record tallies with the shell.
- `Setup.Programs`: the programs that configure an interface for a setup.
- `Caller.HasRun`: what was run when a caller stands at its place.
- `Deployment.Configures`: what was run by a coordinator with one setup.

## Main results

- `Deployment.tallies_run?`: the record of every run does.
- `Caller.hasRun_step`: what one turn of the caller runs.
- `Deployment.Configures.run?`: what is kept by any run without resets.
- `Deployment.Begins.tried`: what was run at its end.
-/

namespace Uplink.Readiness

open Host (HostNetwork Invocation MachineInterface PrefixFinder Probes Shell)

variable {S : Type} {cfg : Config}

/-- A coordinator on a host, with the programs that were run so far. -/
structure Deployment (S : Type) where
  system : System
  network : HostNetwork
  machine : List MachineInterface
  shell : S
  tried : List Invocation := []

/-- One thing that happens to a coordinator on a host. -/
inductive Occurrence (cfg : Config) where
  | step (e : Event cfg)
  /-- The machine changes, or somebody else deals with the network. -/
  | elsewhere (network : HostNetwork) (machine : List MachineInterface)

namespace Occurrence

/-- Whether a reset comes in. -/
def isReset : Occurrence cfg → Bool
  | step e => e.isReset
  | elsewhere .. => false

/-- Whether it is the turn of the `i`-th thread. -/
def isTurnOf (i : Nat) : Occurrence cfg → Bool
  | step e => e.isTurnOf i
  | elsewhere .. => false

/-- Whether a setup is told that it cannot be registered as a listener. -/
def refusesListener : Occurrence cfg → Bool
  | step (.turn _ (.caller (.subscribe ..)) (.error _)) => true
  | _ => false

end Occurrence

namespace Deployment

/-- What the interfaces look like at this moment. -/
def seen (p : Probes) (d : Deployment S) : List Interface := d.network.snapshot p d.machine

/-- A command was carried out by the host. -/
def perform (finder : PrefixFinder) (shell : Shell S) (d : Deployment S) (c : NetworkCommand) :
    Deployment S :=
  let done := d.network.perform finder shell d.shell c
  { d with network := done.network, shell := done.shell, tried := d.tried ++ done.tried }

/-- The deployment when a reply was given, if it can be given now. -/
def serve? (p : Probes) (finder : PrefixFinder) (shell : Shell S) (d : Deployment S) :
    (q : Request) → q.Reply → Option (Deployment S)
  | .listInterfaces, .ok interfaces => if interfaces = d.seen p then some d else none
  | .listInterfaces, .error _ => none
  | .command c, .ok () =>
    match (d.network.perform finder shell d.shell c).result with
    | .ok () => some (d.perform finder shell c)
    | .error _ => none
  | .command c, .error cause =>
    match (d.network.perform finder shell d.shell c).result with
    | .ok () => none
    | .error refusal => if refusal = cause then some (d.perform finder shell c) else none
  | _, _ => some d

/-- What an occurrence leads to. Nobody changes whose business the configuration is. -/
def after? (p : Probes) (finder : PrefixFinder) (shell : Shell S) (d : Deployment S) :
    Occurrence cfg → Option (Deployment S)
  | .step (.turn i t reply) =>
    (d.system.after? (.turn i t reply)).bind fun system =>
      (d.serve? p finder shell (t.request cfg) reply).map ({ · with system })
  | .step (.enter n) => some { d with system := d.system.join n }
  | .elsewhere network machine =>
    if network.mode = d.network.mode then some { d with network, machine } else none

/-- What a list of occurrences leads to. -/
abbrev run? (p : Probes) (finder : PrefixFinder) (shell : Shell S) (d : Deployment S)
    (es : List (Occurrence cfg)) : Option (Deployment S) := runFrom? (after? p finder shell) d es

/-- The deployments on the way. -/
abbrev states (p : Probes) (finder : PrefixFinder) (shell : Shell S) (d : Deployment S)
    (es : List (Occurrence cfg)) : List (Deployment S) := statesFrom (after? p finder shell) d es

variable {p : Probes} {finder : PrefixFinder} {shell : Shell S} {d d' : Deployment S}

theorem after?_turn_eq_some {i : Nat} {t : Thread} {reply : (t.request cfg).Reply} :
    d.after? p finder shell (.step (.turn i t reply)) = some d' ↔
      d.system.threads[i]? = some t ∧
        ∃ served, d.serve? p finder shell (t.request cfg) reply = some served ∧
          { served with system := d.system.advance cfg i t reply } = d' := by
  simp only [after?, Option.bind_eq_some_iff, Option.map_eq_some_iff, System.after?_turn_eq_some]
  constructor
  · rintro ⟨_, ⟨present, rfl⟩, served, serve, rfl⟩
    exact ⟨present, served, serve, rfl⟩
  · rintro ⟨present, served, serve, rfl⟩
    exact ⟨_, ⟨present, rfl⟩, served, serve, rfl⟩

/-- Only commands run anything, or change anything of the network. -/
theorem serve?_of_not_command {q : Request} {reply : q.Reply} (other : ∀ c, q ≠ .command c)
    (serve : d.serve? p finder shell q reply = some d') : d' = d := by
  cases q with
  | command c => exact (other c rfl).elim
  | listInterfaces =>
    cases reply with
    | ok interfaces => exact (Option.some.inj (Option.ite_none_right_eq_some.mp serve).2).symm
    | error cause => cases serve
  | _ => exact (Option.some.inj serve).symm

/-- Where all programs succeed, a command succeeds and runs what it is to be carried out by. -/
theorem serve?_command (applying : d.network.mode = .apply)
    (succeeds : ∀ s i, (shell.run s i).2.isSuccess = true) {c : NetworkCommand}
    {programs : List Invocation} (prescribed : c.Prescribes finder programs)
    {reply : Except ErrorChain Unit}
    (serve : d.serve? p finder shell (.command c) reply = some d') :
    reply = .ok () ∧ d'.tried = d.tried ++ programs ∧ d'.network.mode = .apply := by
  obtain ⟨tried, result⟩ := HostNetwork.perform_of_success applying succeeds prescribed d.shell
  cases reply with
  | error cause => simp [serve?, result] at serve
  | ok _ =>
    simp only [serve?, result, Option.some.injEq] at serve
    subst serve
    exact ⟨rfl, congrArg (d.tried ++ ·) tried, by simp [perform, applying]⟩

/-- The record tallies with the shell: between two moments the shell was left by the programs that
were recorded meanwhile, and by no others. -/
def Tallies (shell : Shell S) (d d' : Deployment S) : Prop :=
  ∃ ran, d'.tried = d.tried ++ ran ∧ d'.shell = shell.after d.shell ran

theorem Tallies.of_same (tried : d'.tried = d.tried) (same : d'.shell = d.shell) :
    d.Tallies shell d' := ⟨[], by rw [tried, List.append_nil], same⟩

theorem Tallies.trans {d'' : Deployment S} (first : d.Tallies shell d')
    (second : d'.Tallies shell d'') : d.Tallies shell d'' := by
  obtain ⟨ran, tried, left⟩ := first
  obtain ⟨more, tried', left'⟩ := second
  exact ⟨ran ++ more, by rw [tried', tried, List.append_assoc],
    by rw [left', left, Host.Shell.after_append]⟩

/-- Whatever is asked and replied, the record tallies with the shell. -/
theorem tallies_serve? {q : Request} {reply : q.Reply}
    (serve : d.serve? p finder shell q reply = some d') : d.Tallies shell d' := by
  by_cases command : ∃ c, q = .command c
  · obtain ⟨c, rfl⟩ := command
    have performed : d' = d.perform finder shell c := by
      cases reply with
      | ok _ =>
        simp only [serve?] at serve
        split at serve
        · exact (Option.some.inj serve).symm
        · cases serve
      | error cause =>
        simp only [serve?] at serve
        split at serve
        · cases serve
        · exact (Option.some.inj (Option.ite_none_right_eq_some.mp serve).2).symm
    rw [performed]
    exact ⟨_, rfl, HostNetwork.shell_perform⟩
  · obtain rfl := serve?_of_not_command (fun c same => command ⟨c, same⟩) serve
    exact .of_same rfl rfl

/-- Whatever happens, it does. -/
theorem tallies_after? {e : Occurrence cfg} (after : d.after? p finder shell e = some d') :
    d.Tallies shell d' := by
  cases e with
  | elsewhere network machine =>
    obtain ⟨-, made⟩ := Option.ite_none_right_eq_some.mp after
    cases made
    exact .of_same rfl rfl
  | step e =>
    cases e with
    | enter newcomer =>
      cases after
      exact .of_same rfl rfl
    | turn i t reply =>
      obtain ⟨-, served, serve, rfl⟩ := after?_turn_eq_some.mp after
      exact (tallies_serve? serve).trans (.of_same rfl rfl)

/-- The record of every run tallies with the shell. -/
theorem tallies_run? {es : List (Occurrence cfg)} (run : d.run? p finder shell es = some d') :
    d.Tallies shell d' :=
  runFrom?_preserves (fun _ => True) (d.Tallies shell ·)
    (fun tallies _ after => tallies.trans (tallies_after? after)) run (fun _ _ => trivial)
    (.of_same rfl rfl)

end Deployment

/-! ## The caller -/

/-- The programs that configure an interface for a setup. -/
structure Setup.Programs (finder : PrefixFinder) (s : Setup) where
  address : String → List Invocation
  servers : String → List Invocation
  address_prescribed : ∀ name, (Caller.addressCommand s name).Prescribes finder (address name)
  servers_prescribed : ∀ name, (Caller.serversCommand s name).Prescribes finder (servers name)

/-- All programs, in order. -/
def Setup.Programs.all {finder : PrefixFinder} {s : Setup} (l : s.Programs finder) (name : String) :
    List Invocation := l.address name ++ l.servers name

namespace Caller

/-- How many turns a caller takes at most until it gives no commands any more. -/
def turnsAhead : Caller → Nat
  | claim _ => 8
  | readGeneration _ => 7
  | start .. => 6
  | find .. => 5
  | subscribe .. => 4
  | keepSubscription .. => 3
  | assign .. => 2
  | setServers .. => 1
  | _ => 0

variable {finder : PrefixFinder} {s : Setup} (l : s.Programs finder) (found : String → Prop)
  (excused : Prop)

/-- What was run when the caller stands at its place: everything or, if it is excused, nothing once
it gives no commands any more. -/
def HasRun (ran : List Invocation) : Caller → Prop
  | claim _ => False
  | readGeneration s' | start s' _ | find s' _ => s' = s ∧ ran = []
  | subscribe s' _ name | keepSubscription s' _ name _ | assign s' _ name =>
    s' = s ∧ found name ∧ ran = []
  | setServers s' _ name => s' = s ∧ found name ∧ ran = l.address name
  | _ => (∃ name, found name ∧ ran = l.all name) ∨ excused ∧ ran = []

variable {l found excused} {ran : List Invocation} {t : Caller} {c : Cells}

theorem hasRun_of_turnsAhead (past : t.turnsAhead = 0) :
    t.HasRun l found excused ran ↔
      (∃ name, found name ∧ ran = l.all name) ∨ excused ∧ ran = [] := by
  cases t <;> first | exact Iff.rfl | cases past

/-- Whatever was run is the beginning of what configures an interface. -/
theorem HasRun.begins (hasRun : t.HasRun l found excused ran) :
    ran = [] ∨ ∃ name, found name ∧ ran <+: l.all name := by
  cases t with
  | claim s' => exact hasRun.elim
  | readGeneration s' | start s' a | find s' a => exact .inl hasRun.2
  | subscribe s' g name | keepSubscription s' g name id | assign s' r name => exact .inl hasRun.2.2
  | setServers s' r name =>
    obtain ⟨-, here, rfl⟩ := hasRun
    exact .inr ⟨name, here, List.prefix_append _ _⟩
  | _ =>
    rcases hasRun with ⟨name, here, rfl⟩ | ⟨-, none⟩
    · exact .inr ⟨name, here, List.prefix_refl _⟩
    · exact .inl none

/-- A caller that gives no commands any more asks for other things, and goes on so. -/
theorem turnsAhead_step_of_zero (past : t.turnsAhead = 0) (reply : (t.request cfg).Reply) :
    (∀ command, t.request cfg ≠ .command command) ∧ (t.step cfg c reply).next.turnsAhead = 0 := by
  cases t with
  | claim | readGeneration | start | find | subscribe | keepSubscription | assign | setServers =>
    cases past
  | settle s r => cases r <;> exact ⟨by simp, rfl⟩
  | startWorker s g id => cases reply <;> exact ⟨by simp, rfl⟩
  | checkToken s | checkTokenForClock s => cases reply <;> exact ⟨by simp, rfl⟩
  | poll s =>
    cases reply with
    | error cause => exact ⟨by simp, rfl⟩
    | ok interfaces =>
      refine ⟨by simp, ?_⟩
      simp only [step, stepPoll]
      split <;> rfl
  | observe s =>
    refine ⟨by simp, ?_⟩
    simp only [step, stepObserve]
    split <;> rfl
  | readClock s =>
    refine ⟨by simp, ?_⟩
    simp only [step, stepClock]
    split <;> rfl
  | conclude s e stage =>
    refine ⟨by simp, ?_⟩
    cases stage with
    | release => cases e <;> rfl
    | _ => rfl
  | keepConfiguration | pollPause | clockPause | returned => exact ⟨by simp, rfl⟩

/-- What one turn of the caller runs, if all programs succeed. -/
theorem hasRun_step {p : Probes} {shell : Shell S} {d served : Deployment S} {i : Nat}
    (applying : d.network.mode = .apply) (succeeds : ∀ s i, (shell.run s i).2.isSuccess = true)
    (hasRun : t.HasRun l found excused d.tried) {reply : (t.request cfg).Reply}
    (serve : d.serve? p finder shell (t.request cfg) reply = some served)
    (picked : ∀ i, Probe.pick? cfg.target (d.seen p) = some i → found i.name)
    (missing : Probe.pick? cfg.target (d.seen p) = none → excused)
    (refused : (Occurrence.step (.turn i (.caller t) reply) : Occurrence cfg).refusesListener = true →
      excused) :
    (t.step cfg d.system.cells reply).next.HasRun l found excused served.tried ∧
      (t.step cfg d.system.cells reply).next.turnsAhead ≤ t.turnsAhead - 1 ∧
      served.network.mode = .apply := by
  -- Behind its last command nothing more is run; before it, every place is a case of its own.
  by_cases past : t.turnsAhead = 0
  · obtain ⟨silent, next⟩ := turnsAhead_step_of_zero past (c := d.system.cells) reply
    obtain rfl := Deployment.serve?_of_not_command silent serve
    refine ⟨(hasRun_of_turnsAhead next).mpr ((hasRun_of_turnsAhead past).mp hasRun), ?_, applying⟩
    rw [next]
    exact Nat.zero_le _
  · cases t with
    | claim s' => exact hasRun.elim
    | readGeneration s' =>
      cases serve
      exact ⟨hasRun, Nat.le_refl _, applying⟩
    | start s' a =>
      cases serve
      exact ⟨hasRun, Nat.le_refl _, applying⟩
    | find s' a =>
      obtain ⟨rfl, none⟩ := hasRun
      cases reply with
      | error cause => cases serve
      | ok interfaces =>
        obtain ⟨rfl, same⟩ := Option.ite_none_right_eq_some.mp serve
        cases same
        simp only [step, stepFind]
        cases pick : Probe.pick? cfg.target (d.seen p) with
        | none => exact ⟨.inr ⟨missing pick, none⟩, Nat.zero_le _, applying⟩
        | some i =>
          cases a with
          | events generation => exact ⟨⟨rfl, picked i pick, none⟩, Nat.le_refl _, applying⟩
          | polling =>
            exact ⟨⟨rfl, picked i pick, none⟩, show 2 ≤ 5 - 1 by decide, applying⟩
    | subscribe s' generation name =>
      cases serve
      cases reply with
      | error cause => exact ⟨.inr ⟨refused rfl, hasRun.2.2⟩, Nat.zero_le _, applying⟩
      | ok id => exact ⟨hasRun, Nat.le_refl _, applying⟩
    | keepSubscription s' generation name id =>
      cases serve
      exact ⟨hasRun, Nat.le_refl _, applying⟩
    | assign s' r name =>
      obtain ⟨rfl, here, none⟩ := hasRun
      obtain ⟨rfl, tried, still⟩ :=
        Deployment.serve?_command applying succeeds (l.address_prescribed name) serve
      rw [none, List.nil_append] at tried
      exact ⟨⟨rfl, here, tried⟩, Nat.le_refl _, still⟩
    | setServers s' r name =>
      obtain ⟨rfl, here, ran⟩ := hasRun
      obtain ⟨rfl, tried, still⟩ :=
        Deployment.serve?_command applying succeeds (l.servers_prescribed name) serve
      rw [ran] at tried
      exact ⟨.inl ⟨name, here, tried⟩, Nat.le_refl _, still⟩
    | _ => exact (past rfl).elim

end Caller

/-! ## The coordinator -/

/-- A worker gives no commands. -/
theorem Worker.request_ne (w : Worker) (c : NetworkCommand) : w.request cfg ≠ .command c := by
  cases w <;> exact nofun

/-- An idle thread gives no commands. -/
theorem Thread.request_ne_of_isIdle {t : Thread} (idle : t.isIdle = true) (c : NetworkCommand) :
    t.request cfg ≠ .command c := by
  rcases t with t | t | t | t
  · cases t with
    | claim | returned => exact nofun
    | _ => cases idle
  · exact t.request_ne c
  · exact nofun
  · cases t <;> exact nofun

namespace Deployment

variable {finder : PrefixFinder} {s : Setup} (l : s.Programs finder) (found : String → Prop)
  (excused : Prop) (i : Nat)

/-- The `i`-th thread was admitted as the caller of a setup and has so many turns ahead of it at most
until it gives no commands any more; what was run is what its place tells, and no other thread gives
commands. -/
structure Configures (n : Nat) (d : Deployment S) : Prop where
  applying : d.network.mode = .apply
  claimed : d.system.cells.claimed = true
  own : ∃ t : Caller, d.system.threads[i]? = some (.caller t) ∧ t.turnsAhead ≤ n ∧
    t.HasRun l found excused d.tried
  others : ∀ j u, j ≠ i → d.system.threads[j]? = some u → u.isIdle = true ∨ ∃ w, u = .worker w

namespace Configures

variable {l found excused i} {n : Nat} {p : Probes} {shell : Shell S} {d d' : Deployment S}

/-- The turn of the caller. -/
theorem turn_own (configures : d.Configures l found excused i n)
    (succeeds : ∀ s i, (shell.run s i).2.isSuccess = true) {t : Thread}
    {reply : (t.request cfg).Reply}
    (after : d.after? p finder shell (.step (.turn i t reply)) = some d')
    (picked : ∀ i, Probe.pick? cfg.target (d.seen p) = some i → found i.name)
    (missing : Probe.pick? cfg.target (d.seen p) = none → excused)
    (refused : (Occurrence.step (.turn i t reply) : Occurrence cfg).refusesListener = true →
      excused) : d'.Configures l found excused i (n - 1) := by
  obtain ⟨applying, claimed, ⟨t, there, few, hasRun⟩, others⟩ := configures
  obtain ⟨present, served, serve, rfl⟩ := after?_turn_eq_some.mp after
  cases there.symm.trans present
  have begun : t.hasBegun = true := by
    cases t with
    | claim s' => exact hasRun.elim
    | _ => rfl
  obtain ⟨next, fewer, still⟩ :=
    Caller.hasRun_step applying succeeds hasRun serve picked missing refused
  refine ⟨still, ?_, ⟨_, System.getElem?_advance_self present, by omega, next⟩, ?_⟩
  · rw [System.cells_advance, Thread.cells_step]
    exact (Caller.claimed_written begun _).trans claimed
  · intro j u other found
    rcases System.getElem?_advance found with ⟨same, -⟩ | ⟨-, old⟩ | ⟨-, w, -, same⟩
    · exact (other same).elim
    · exact others j u other old
    · exact .inr ⟨w, same⟩

/-- The turn of another thread. -/
theorem turn_other (configures : d.Configures l found excused i n) {k : Nat} {t : Thread}
    {reply : (t.request cfg).Reply} (apart : k ≠ i)
    (after : d.after? p finder shell (.step (.turn k t reply)) = some d') :
    d'.Configures l found excused i n := by
  obtain ⟨applying, claimed, ⟨own, there, few, hasRun⟩, others⟩ := configures
  obtain ⟨present, served, serve, rfl⟩ := after?_turn_eq_some.mp after
  -- It is not the caller, so it gives no command, and it does not free the configuration for a caller
  -- who would.
  have harmless : (∀ c, t.request cfg ≠ .command c) ∧
      (t.step cfg d.system.cells reply).cells.claimed = true ∧
      ((t.step cfg d.system.cells reply).next.isIdle = true ∨
        ∃ w, (t.step cfg d.system.cells reply).next = .worker w) := by
    rcases others k t apart present with idle | ⟨w, rfl⟩
    · obtain ⟨cells, next, -⟩ := Thread.step_of_isIdle idle (.inl claimed) reply
      exact ⟨Thread.request_ne_of_isIdle idle, (congrArg Cells.claimed cells).trans claimed,
        .inl next⟩
    · refine ⟨w.request_ne, ?_, .inr ⟨_, rfl⟩⟩
      rw [Thread.cells_step]
      exact (w.claimed_written _).trans claimed
  obtain ⟨silent, kept, next⟩ := harmless
  obtain rfl := serve?_of_not_command silent serve
  refine ⟨applying, kept, ⟨own, System.getElem?_advance_of_ne there apart.symm, few, hasRun⟩, ?_⟩
  intro j u other present
  rcases System.getElem?_advance present with ⟨-, rfl⟩ | ⟨-, old⟩ | ⟨-, w, -, same⟩
  · exact next
  · exact others j u other old
  · exact .inr ⟨w, same⟩

/-- An occurrence leaves it so, and a turn of the caller comes nearer to the end. -/
theorem after? (configures : d.Configures l found excused i n)
    (succeeds : ∀ s i, (shell.run s i).2.isSuccess = true) {e : Occurrence cfg}
    (calm : e.isReset = false) (after : d.after? p finder shell e = some d')
    (picked : ∀ i, Probe.pick? cfg.target (d.seen p) = some i → found i.name)
    (missing : Probe.pick? cfg.target (d.seen p) = none → excused)
    (refused : e.refusesListener = true → excused) :
    d'.Configures l found excused i (n - if e.isTurnOf i then 1 else 0) := by
  cases e with
  | elsewhere network machine =>
    obtain ⟨same, made⟩ := Option.ite_none_right_eq_some.mp after
    cases made
    exact ⟨same.trans configures.applying, configures.claimed, configures.own, configures.others⟩
  | step e =>
    cases e with
    | enter newcomer =>
      cases after
      obtain ⟨t, there, rest⟩ := configures.own
      refine ⟨configures.applying, configures.claimed,
        ⟨t, System.getElem?_join_of_some there, rest⟩, fun j u other present => ?_⟩
      rcases System.getElem?_join present with old | ⟨-, rfl⟩
      · exact configures.others j u other old
      · refine .inl (newcomer.isIdle_thread ?_)
        rintro rfl
        cases calm
    | turn k t reply =>
      by_cases same : i = k
      · subst same
        have counted : (Occurrence.step (.turn i t reply) : Occurrence cfg).isTurnOf i = true := by
          simp [Occurrence.isTurnOf, Event.isTurnOf]
        rw [counted, if_pos rfl]
        exact configures.turn_own succeeds after picked missing refused
      · have uncounted : (Occurrence.step (.turn k t reply) : Occurrence cfg).isTurnOf i = false := by
          simp [Occurrence.isTurnOf, Event.isTurnOf, same]
        rw [uncounted, if_neg Bool.false_ne_true, Nat.sub_zero]
        exact configures.turn_other (Ne.symm same) after

/-- At the end of a run without resets, what was run is what the place of the caller tells. -/
theorem run? {es : List (Occurrence cfg)} (configures : d.Configures l found excused i n)
    (succeeds : ∀ s i, (shell.run s i).2.isSuccess = true)
    (calm : ∀ e ∈ es, e.isReset = false) (run : d.run? p finder shell es = some d')
    (picked : ∀ m ∈ d.states p finder shell es, ∀ i,
      Probe.pick? cfg.target (m.seen p) = some i → found i.name)
    (missing : ∀ m ∈ d.states p finder shell es, Probe.pick? cfg.target (m.seen p) = none → excused)
    (refused : ∀ e ∈ es, e.refusesListener = true → excused) :
    d'.Configures l found excused i (n - es.countP (·.isTurnOf i)) := by
  induction es generalizing d n with
  | nil =>
    cases run
    exact configures
  | cons e es ih =>
    obtain ⟨next, after, rest⟩ := runFrom?_cons_eq_some.mp run
    have onward {m : Deployment S} (mem : m ∈ next.states p finder shell es) :
        m ∈ d.states p finder shell (e :: es) := by
      simp [statesFrom, after, mem]
    have here : d ∈ d.states p finder shell (e :: es) := by simp [statesFrom]
    have later := ih (configures.after? succeeds (calm e List.mem_cons_self) after (picked d here)
      (missing d here) (refused e List.mem_cons_self))
      (fun f mem => calm f (List.mem_cons_of_mem e mem)) rest (fun m mem => picked m (onward mem))
      (fun m mem => missing m (onward mem)) fun f mem => refused f (List.mem_cons_of_mem e mem)
    rwa [Nat.sub_sub, Nat.add_comm, ← List.countP_cons] at later

/-- The turn in which a caller is admitted. -/
theorem of_claim (applying : d.network.mode = .apply) (unclaimed : d.system.Unclaimed)
    (untried : d.tried = [])
    (after : d.after? p finder shell (.step (.turn i (.caller (.claim s)) () : Event cfg)) =
      some d') :
    d'.Configures l found excused i 7 := by
  obtain ⟨present, served, serve, rfl⟩ := after?_turn_eq_some.mp after
  cases serve
  have holds := Thread.holds_claim unclaimed.untouched cfg s ()
  refine ⟨applying, holds.claimed, ⟨_, System.getElem?_advance_self present, ?_⟩, ?_⟩
  · simp only [Caller.step, Caller.stepClaim, unclaimed.untouched.free]
    cases s.mode with
    | events => exact ⟨Nat.le_refl 7, rfl, untried⟩
    | polling => exact ⟨show 6 ≤ 7 by decide, rfl, untried⟩
  · intro j u other there
    rcases System.getElem?_advance there with ⟨same, -⟩ | ⟨-, old⟩ | ⟨-, w, started, -⟩
    · exact (other same).elim
    · exact .inl (unclaimed.idle u (List.mem_of_getElem? old))
    · cases started

end Configures

/-! ## Whole runs -/

/-- A run that begins with the call of the `i`-th thread, on a coordinator that nobody has asked for a
setup yet and a host that carries commands out. No reset comes in. -/
structure Begins (i : Nat) (s : Setup) (d : Deployment S) (es : List (Occurrence cfg)) : Prop where
  applying : d.network.mode = .apply
  unclaimed : d.system.Unclaimed
  untried : d.tried = []
  first : es.head? = some (.step (.turn i (.caller (.claim s)) ()))
  calm : ∀ e ∈ es, e.isReset = false

variable (p : Probes) (finder : PrefixFinder) (shell : Shell S) (d : Deployment S)
  (es : List (Occurrence cfg))

/-- During a run, an interface of this name is the first one of the target kind that is shown. -/
def Shows (name : String) : Prop :=
  ∃ m ∈ d.states p finder shell es, ∃ i, Probe.pick? cfg.target (m.seen p) = some i ∧ i.name = name

/-- During a run, no interface of the target kind is shown, or a listener cannot be registered. -/
def Hinders : Prop :=
  (∃ m ∈ d.states p finder shell es, Probe.pick? cfg.target (m.seen p) = none) ∨
    ∃ e ∈ es, e.refusesListener = true

variable {p finder shell d es} {i : Nat} {d' : Deployment S}

/-- At the end of a run, the shell is left by what was recorded, and by nothing else. -/
theorem Begins.left (begins : d.Begins i s es) (run : d.run? p finder shell es = some d') :
    d'.shell = shell.after d.shell d'.tried := by
  obtain ⟨ran, tried, left⟩ := tallies_run? run
  rw [tried, begins.untried, List.nil_append]
  exact left

/-- Where all programs succeed, nothing is run but what configures an interface that is shown, in this
order, and all of it once the caller has taken eight turns, unless it was hindered and nothing is run
at all. -/
theorem Begins.tried (begins : d.Begins i s es)
    (succeeds : ∀ s i, (shell.run s i).2.isSuccess = true) (l : s.Programs finder)
    (run : d.run? p finder shell es = some d') :
    (d'.tried = [] ∨ ∃ name, d.Shows p finder shell es name ∧ d'.tried <+: l.all name) ∧
      (8 ≤ es.countP (·.isTurnOf i) →
        (∃ name, d.Shows p finder shell es name ∧ d'.tried = l.all name) ∨
          d.Hinders p finder shell es ∧ d'.tried = []) := by
  obtain ⟨applying, unclaimed, untried, first, calm⟩ := begins
  obtain ⟨rest, split⟩ := List.head?_eq_some_iff.mp first
  rw [split] at run
  obtain ⟨next, after, going⟩ := runFrom?_cons_eq_some.mp run
  have onward {m : Deployment S} (mem : m ∈ next.states p finder shell rest) :
      m ∈ d.states p finder shell es := by
    rw [split]
    simp [statesFrom, after, mem]
  have later {e : Occurrence cfg} (mem : e ∈ rest) : e ∈ es := split ▸ List.mem_cons_of_mem _ mem
  have admitted : next.Configures l (d.Shows p finder shell es) (d.Hinders p finder shell es) i 7 :=
    .of_claim applying unclaimed untried after
  have configures := admitted.run? succeeds (fun e mem => calm e (later mem)) going
    (fun m mem j pick => ⟨m, onward mem, j, pick, rfl⟩)
    (fun m mem none => .inl ⟨m, onward mem, none⟩)
    fun e mem refused => .inr ⟨e, later mem, refused⟩
  obtain ⟨t, -, few, hasRun⟩ := configures.own
  refine ⟨hasRun.begins, fun many => (Caller.hasRun_of_turnsAhead ?_).mp hasRun⟩
  rw [split, List.countP_cons] at many
  split at many <;> omega

end Deployment

end Uplink.Readiness
