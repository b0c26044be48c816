import Uplink.Proofs.Host.Snapshot
import Uplink.Proofs.Readiness.Dealings
import Uplink.Proofs.Readiness.Leading

/-!
# Which interface is configured

A setup picks its interface at its first look, and all its commands are for this one. On a host the
look shows the machine as it is at that moment, so that the choice can be told from the machine.

## Main definitions

- `Caller.Pursues`: what a caller that has picked an interface has asked for at its place.
- `Caller.Lacks`: where a caller that has found none stands.
- `eventsOf`: what happens to the coordinator itself during a run on a host.

## Main results

- `System.Led.pursue`, `System.Led.lack`: what follows a look that shows an interface, or none.
- `Deployment.live_interface_configured`: which interface of a machine is configured.
-/

namespace Uplink.Readiness

open Host (HostNetwork MachineInterface PrefixFinder Probes Shell)

variable {S : Type} {cfg : Config}

/-- Whether a caller is told that it cannot be registered as a listener, or that the address was not
assigned. -/
def Event.declines : Event cfg → Bool
  | turn _ (.caller (.subscribe ..)) (.error _) | turn _ (.caller (.assign ..)) (.error _) => true
  | _ => false

/-! ## The caller -/

namespace Caller

/-- Whether a caller has found no interface of the target kind. -/
def lacksInterface : Caller → Bool
  | conclude _ (.noInterface _) _ | returned (.refused (.noInterface ..)) => true
  | _ => false

variable {s : Setup} {name : String} {excused : Prop} {asked : List NetworkCommand} {t : Caller}

/-- Every turn brings a caller nearer to the end of its commands. -/
theorem turnsAhead_step (c : Cells) (reply : (t.request cfg).Reply) :
    (t.step cfg c reply).next.turnsAhead ≤ t.turnsAhead - 1 := by
  by_cases past : t.turnsAhead = 0
  · rw [(turnsAhead_step_of_zero past (c := c) reply).2]
    exact Nat.zero_le _
  · cases t with
    | claim s =>
      simp only [step, stepClaim]
      split
      · exact Nat.zero_le _
      · cases s.mode <;> simp [turnsAhead]
    | find s a =>
      cases reply with
      | error cause => exact Nat.zero_le _
      | ok interfaces =>
        simp only [step, stepFind]
        split
        · exact Nat.zero_le _
        · cases a <;> simp [turnsAhead]
    | subscribe | assign | setServers =>
      cases reply <;> simp [step, stepSubscribe, stepAssign, stepSetServers, ending, turnsAhead]
    | readGeneration | start | keepSubscription => exact Nat.le_refl _
    | _ => exact (past rfl).elim

/-- The commands of a caller come last. -/
theorem command?_of_early (early : 3 ≤ t.turnsAhead) : (t.request cfg).command? = none := by
  cases t with
  | assign => exact absurd early (show ¬ 3 ≤ 2 by decide)
  | setServers => exact absurd early (show ¬ 3 ≤ 1 by decide)
  | _ => rfl

/-- A caller that gives no commands any more does not come to miss an interface. -/
theorem lacksInterface_step_of_zero (past : t.turnsAhead = 0) (present : t.lacksInterface = false)
    (c : Cells) (reply : (t.request cfg).Reply) :
    (t.step cfg c reply).next.lacksInterface = false := by
  cases t with
  | claim | readGeneration | start | find | subscribe | keepSubscription | assign | setServers =>
    cases past
  | settle s r => cases r <;> rfl
  | startWorker | checkToken | checkTokenForClock => cases reply <;> rfl
  | poll s =>
    cases reply with
    | error cause => rfl
    | ok interfaces =>
      simp only [step, stepPoll]
      split <;> rfl
  | observe s =>
    simp only [step, stepObserve]
    split <;> rfl
  | readClock s =>
    simp only [step, stepClock]
    split <;> rfl
  | conclude s e stage =>
    cases e with
    | noInterface found => cases present
    | _ =>
      cases stage with
      | settle =>
        cases mode : s.mode <;> simp [step, Ending.step, Ending.verdict, mode, lacksInterface]
      | _ => rfl
  | returned v => exact present
  | keepConfiguration | pollPause | clockPause => rfl

/-- What a caller that has picked an interface has asked for when it stands at its place: both
commands in the end or, if it is excused, the first of them. -/
def Pursues (s : Setup) (name : String) (excused : Prop) (asked : List NetworkCommand) :
    Caller → Prop
  | claim _ | readGeneration _ | start .. | find .. => False
  | subscribe s' _ name' | keepSubscription s' _ name' _ | assign s' _ name' =>
    s' = s ∧ name' = name ∧ asked = []
  | setServers s' _ name' => s' = s ∧ name' = name ∧ asked = [addressCommand s name]
  | t => t.lacksInterface = false ∧
      (asked = s.commands name ∨ excused ∧ asked <+: s.commands name)

theorem pursues_of_turnsAhead (past : t.turnsAhead = 0) :
    t.Pursues s name excused asked ↔
      t.lacksInterface = false ∧
        (asked = s.commands name ∨ excused ∧ asked <+: s.commands name) := by
  cases t <;> first | exact Iff.rfl | cases past

/-- Whatever was asked for is the beginning of what configures the interface. -/
theorem Pursues.prefix (pursues : t.Pursues s name excused asked) :
    asked <+: s.commands name ∧ t.lacksInterface = false := by
  cases t with
  | claim | readGeneration | start | find => exact pursues.elim
  | subscribe | keepSubscription | assign =>
    obtain ⟨-, -, rfl⟩ := pursues
    exact ⟨List.nil_prefix, rfl⟩
  | setServers =>
    obtain ⟨-, -, rfl⟩ := pursues
    rw [s.commands_eq]
    exact ⟨List.prefix_append [_] [_], rfl⟩
  | _ =>
    obtain ⟨present, rfl | ⟨-, first⟩⟩ := pursues
    · exact ⟨List.prefix_refl _, present⟩
    · exact ⟨first, present⟩

/-- One turn of a caller that has picked an interface. -/
theorem Pursues.step {i : Nat} (pursues : t.Pursues s name excused asked) (c : Cells)
    (reply : (t.request cfg).Reply)
    (declined : (Event.turn i (.caller t) reply : Event cfg).declines = true → excused) :
    (t.step cfg c reply).next.Pursues s name excused
      (asked ++ (t.request cfg).command?.toList) := by
  -- Behind its last command nothing more is asked for; before it, every place is a case of its own.
  by_cases past : t.turnsAhead = 0
  · obtain ⟨silent, next⟩ := turnsAhead_step_of_zero past (c := c) reply
    obtain ⟨present, asked⟩ := (pursues_of_turnsAhead past).mp pursues
    rw [Request.command?_eq_none silent, Option.toList_none, List.append_nil,
      pursues_of_turnsAhead next]
    exact ⟨lacksInterface_step_of_zero past present c reply, asked⟩
  · cases t with
    | claim | readGeneration | start | find => exact pursues.elim
    | subscribe s' generation name' =>
      obtain ⟨rfl, rfl, rfl⟩ := pursues
      cases reply with
      | error cause => exact ⟨rfl, .inr ⟨declined rfl, List.nil_prefix⟩⟩
      | ok id => exact ⟨rfl, rfl, rfl⟩
    | keepSubscription s' generation name' id =>
      obtain ⟨rfl, rfl, rfl⟩ := pursues
      exact ⟨rfl, rfl, rfl⟩
    | assign s' r name' =>
      obtain ⟨rfl, rfl, rfl⟩ := pursues
      cases reply with
      | error cause =>
        refine ⟨rfl, .inr ⟨declined rfl, ?_⟩⟩
        rw [s'.commands_eq]
        exact List.prefix_append [_] [_]
      | ok _ => exact ⟨rfl, rfl, rfl⟩
    | setServers s' r name' =>
      obtain ⟨rfl, rfl, rfl⟩ := pursues
      cases reply <;> exact ⟨rfl, .inl (s'.commands_eq _).symm⟩
    | _ => exact (past rfl).elim

/-- Where a caller that has found no interface stands after so many turns. -/
def Lacks (target : InterfaceKind) (s : Setup) (found : Nat) (t : Caller) : Nat → Prop
  | 0 => t = conclude s (.noInterface found) .publish
  | 1 => t = conclude s (.noInterface found) .settle
  | _ => t = returned (.refused (.noInterface target found))

/-- One turn of a caller that has found no interface. -/
theorem Lacks.step {found n : Nat} (lacks : t.Lacks cfg.target s found n) (c : Cells)
    (reply : (t.request cfg).Reply) :
    (t.step cfg c reply).next.Lacks cfg.target s found (n + 1) ∧
      (t.request cfg).command? = none := by
  match n with
  | 0 | 1 | n + 2 =>
    cases lacks
    exact ⟨rfl, rfl⟩

end Caller

/-! ## The look -/

namespace System.Led

variable {s s' : System} {i : Nat} {setup : Setup} {a : Approach} {interfaces : List Interface}
  {es : List (Event cfg)}

/-- Before its look a caller asks for no command. -/
theorem commands_before_look (unclaimed : s.Unclaimed) (calm : Calm es)
    (run : s.run? (.turn i (.caller (.claim setup)) () :: es) = some s') {t : Caller}
    (there : s'.threads[i]? = some (.caller t)) (early : 5 ≤ t.turnsAhead) :
    s'.Led i t ∧ commandsIn es = [] := by
  obtain ⟨next, after, rest⟩ := runFrom?_cons_eq_some.mp run
  obtain ⟨present, rfl⟩ := System.after?_turn_eq_some.mp after
  obtain ⟨t', led, none⟩ := (Led.of_claim unclaimed present).run? (fun _ => True) Event.command?
    (P := fun _ _ t asked => 5 ≤ t.turnsAhead → asked = []) (fun _ => rfl) id
    (fun {n c t asked} reply none _ early => by
      have nearer := Caller.turnsAhead_step (t := t) c reply
      rw [none (by omega), Event.command?, Caller.command?_of_early (by omega)]
      rfl)
    (fun kept _ => kept) (fun _ _ => trivial) calm rest
  cases led.own.symm.trans there
  exact ⟨led, none early⟩

/-- After a look that shows an interface of the target kind, the commands are for the first one. -/
theorem pursue {shown : Interface} (led : s.Led i (.find setup a))
    (pick : Probe.pick? cfg.target interfaces = some shown) (calm : Calm es)
    (run : (s.advance cfg i (.caller (.find setup a)) (.ok interfaces)).run? es = some s') :
    ∃ t, s'.Led i t ∧ t.lacksInterface = false ∧ commandsIn es <+: setup.commands shown.name ∧
      (4 ≤ turnsOf i es →
        commandsIn es = setup.commands shown.name ∨ ∃ e ∈ es, e.declines = true) := by
  have started : ((Caller.find setup a).step cfg s.cells (.ok interfaces)).next.Pursues setup
        shown.name (∃ e ∈ es, e.declines = true) [] ∧
      ((Caller.find setup a).step cfg s.cells (.ok interfaces)).next.turnsAhead ≤ 4 := by
    simp only [Caller.step, Caller.stepFind, pick]
    cases a with
    | events generation => exact ⟨⟨rfl, rfl, rfl⟩, Nat.le_refl _⟩
    | polling => exact ⟨⟨rfl, rfl, rfl⟩, show 2 ≤ 4 by decide⟩
  obtain ⟨t, led', pursues, few⟩ := (led.turn_own (.ok interfaces)).run?
    (fun e : Event cfg => e.declines = true → ∃ e ∈ es, e.declines = true) Event.command?
    (P := fun n _ t asked => t.Pursues setup shown.name (∃ e ∈ es, e.declines = true) asked ∧
      t.turnsAhead ≤ 4 - n) started id
    (fun {n c t asked} reply kept declined => by
      refine ⟨kept.1.step c reply declined, ?_⟩
      have nearer := Caller.turnsAhead_step (t := t) c reply
      omega)
    (fun kept _ => kept) (fun e mem declined => ⟨e, mem, declined⟩) calm run
  refine ⟨t, led', pursues.prefix.2, pursues.prefix.1, fun many => ?_⟩
  obtain ⟨-, all | ⟨excused, -⟩⟩ :=
    (Caller.pursues_of_turnsAhead (by omega)).mp pursues
  · exact .inl all
  · exact .inr excused

/-- After a look that shows none, no command is asked for, and the caller is refused. -/
theorem lack (led : s.Led i (.find setup a))
    (missing : Probe.pick? cfg.target interfaces = none) (calm : Calm es)
    (run : (s.advance cfg i (.caller (.find setup a)) (.ok interfaces)).run? es = some s') :
    commandsIn es = [] ∧
      (2 ≤ turnsOf i es → s'.threads[i]? =
        some (.caller (.returned (.refused (.noInterface cfg.target interfaces.length))))) := by
  have started : ((Caller.find setup a).step cfg s.cells (.ok interfaces)).next.Lacks cfg.target
      setup interfaces.length 0 := by
    simp only [Caller.step, Caller.stepFind, missing]
    rfl
  obtain ⟨t, led', lacks, none⟩ := (led.turn_own (.ok interfaces)).run? (fun _ => True)
    Event.command?
    (P := fun n _ t asked => t.Lacks cfg.target setup interfaces.length n ∧ asked = [])
    ⟨started, rfl⟩ id
    (fun {n c t asked} reply kept _ => by
      obtain ⟨lacks, silent⟩ := kept.1.step c reply
      exact ⟨lacks, by rw [Event.command?, silent, kept.2]; rfl⟩)
    (fun kept _ => kept) (fun _ _ => trivial) calm run
  refine ⟨none, fun many => ?_⟩
  obtain ⟨k, turns⟩ := Nat.exists_eq_add_of_le' many
  rw [turns] at lacks
  rw [led'.own, lacks]

end System.Led

/-! ## On a host -/

/-- What happens to the coordinator itself. -/
def Occurrence.event? : Occurrence cfg → Option (Event cfg)
  | step e => some e
  | elsewhere .. => none

/-- What happens to the coordinator itself, in order. -/
def eventsOf (es : List (Occurrence cfg)) : List (Event cfg) := es.filterMap Occurrence.event?

namespace Deployment

variable {p : Probes} {finder : PrefixFinder} {shell : Shell S} {d d' m : Deployment S}
  {es : List (Occurrence cfg)}

/-- On a host, the interfaces that are seen are those of the machine. -/
theorem serve?_listInterfaces_eq_some {reply : Except ErrorChain (List Interface)} :
    d.serve? p finder shell .listInterfaces reply = some d' ↔ reply = .ok (d.seen p) ∧ d = d' := by
  cases reply with
  | error cause => simp [serve?]
  | ok interfaces => simp [serve?]

/-- A run of a coordinator on a host is a run of the coordinator. -/
theorem system_run? (run : d.run? p finder shell es = some d') :
    d.system.run? (eventsOf es) = some d'.system := by
  induction es generalizing d with
  | nil =>
    cases run
    rfl
  | cons e es ih =>
    obtain ⟨next, after, rest⟩ := runFrom?_cons_eq_some.mp run
    cases e with
    | elsewhere network machine =>
      obtain ⟨-, made⟩ := Option.ite_none_right_eq_some.mp after
      cases made
      exact ih (d := { d with network, machine }) rest
    | step e =>
      refine runFrom?_cons_eq_some.mpr ⟨next.system, ?_, ih rest⟩
      cases e with
      | enter n =>
        cases after
        rfl
      | turn i t reply =>
        obtain ⟨present, served, -, rfl⟩ := after?_turn_eq_some.mp after
        exact System.after?_turn_eq_some.mpr ⟨present, rfl⟩

theorem calm_eventsOf (calm : ∀ e ∈ es, e.isReset = false) : Calm (eventsOf es) := by
  intro e mem
  obtain ⟨o, here, event⟩ := List.mem_filterMap.mp mem
  cases o with
  | step f =>
    cases event
    exact calm _ here
  | elsewhere network machine => cases event

/-- A listing has an entry for each interface of the machine, with its first IPv4 address, those
that are up before all others and otherwise in the machine's order. So the commands of a setup are for
the first interface of the target kind that is up when it looks or else for the first one; both are
asked for in time unless a listener or the address is declined. The setup is refused for want of an
interface if and only if the machine has none of that kind. -/
theorem live_interface_configured (p : Probes) :
    (∀ (h : HostNetwork) (machine : List MachineInterface), ∃ order : List MachineInterface,
      Host.LiveFirst machine order ∧
      (h.snapshot p machine = order.map fun i =>
        { name := i.name, kind := i.classify p, ipv4 := i.firstAddress
          dhcp := h.dhcp.contains i.name }) ∧
      ∀ i ∈ machine, Host.FirstAddress i.addresses i.firstAddress) ∧
    ∀ {finder : PrefixFinder} {shell : Shell S} {d m d' : Deployment S} {i : Nat} {setup : Setup}
      {a : Approach} {before after : List (Occurrence cfg)}
      {reply : Except ErrorChain (List Interface)},
      d.system.Unclaimed →
      (∀ e ∈ before ++ after, e.isReset = false) →
      d.run? p finder shell (.step (.turn i (.caller (.claim setup)) ()) :: before) = some m →
      m.run? p finder shell (.step (.turn i (.caller (.find setup a)) reply) :: after) = some d' →
      reply = .ok (m.seen p) ∧
      (∀ x, Host.choose? p cfg.target m.machine = some x →
        commandsIn (eventsOf (before ++ after)) <+: setup.commands x.name ∧
        (4 ≤ turnsOf i (eventsOf after) →
          commandsIn (eventsOf (before ++ after)) = setup.commands x.name ∨
          ∃ e ∈ eventsOf after, e.declines = true) ∧
        ∀ target found, d'.system.threads[i]? ≠
          some (.caller (.returned (.refused (.noInterface target found))))) ∧
      ((∀ x ∈ m.machine, x.classify p ≠ cfg.target) →
        commandsIn (eventsOf (before ++ after)) = [] ∧
        (2 ≤ turnsOf i (eventsOf after) → d'.system.threads[i]? =
          some (.caller (.returned
            (.refused (.noInterface cfg.target m.machine.length)))))) := by
  constructor
  · intro h machine
    obtain ⟨order, liveFirst, listed⟩ := h.snapshot_liveFirst p machine
    exact ⟨order, liveFirst, listed, fun i _ => Host.firstAddress_firstAddress i⟩
  · intro finder shell d m d' i setup a before after reply unclaimed calm first looked
    obtain ⟨next, looks, rest⟩ := runFrom?_cons_eq_some.mp looked
    obtain ⟨present, served, serve, rfl⟩ := after?_turn_eq_some.mp looks
    obtain ⟨rfl, rfl⟩ := serve?_listInterfaces_eq_some.mp serve
    obtain ⟨led, silent⟩ := System.Led.commands_before_look (t := .find setup a) unclaimed
      (calm_eventsOf fun e mem => calm e (List.mem_append_left after mem))
      (system_run? first) present (Nat.le_refl 5)
    have quiet := calm_eventsOf fun e mem => calm e (List.mem_append_right before mem)
    have commands : commandsIn (eventsOf (before ++ after)) = commandsIn (eventsOf after) := by
      rw [eventsOf, List.filterMap_append, commandsIn_append]
      exact silent ▸ List.nil_append _
    rw [commands]
    refine ⟨rfl, fun x chosen => ?_, fun none => ?_⟩
    · have pick := (m.network.pick?_snapshot p cfg.target m.machine).trans
        (congrArg (Option.map _) chosen)
      obtain ⟨t, led', present, begun, all⟩ := led.pursue pick quiet (system_run? rest)
      refine ⟨begun, all, fun target found refused => ?_⟩
      cases led'.own.symm.trans refused
      cases present
    · have missing := (m.network.pick?_snapshot p cfg.target m.machine).trans
        (congrArg (Option.map _) (Host.choose?_eq_none_iff.mpr none))
      have lacks := led.lack missing quiet (system_run? rest)
      have length : (m.network.snapshot p m.machine).length = m.machine.length :=
        Host.length_snapshot ..
      rwa [length] at lacks

/-- A machine whose first wired interface is down. -/
def patched : List MachineInterface :=
  [⟨"eth0", 2, true, [.v4 ⟨10, 0, 0, 1⟩]⟩, ⟨"tun0", 0x11, true, []⟩,
    ⟨"eth1", 3, true, [.v6, .v4 ⟨10, 0, 0, 9⟩, .v4 ⟨10, 0, 0, 8⟩]⟩, ⟨"eth2", 3, true, []⟩]

/-- What a coordinator sees of it. -/
def patchedSeen : List Interface :=
  [⟨"tun0", .unknown, .any, false⟩, ⟨"eth1", .ethernet, .ofOctets ⟨10, 0, 0, 9⟩, false⟩,
    ⟨"eth2", .ethernet, .any, false⟩, ⟨"eth0", .ethernet, .ofOctets ⟨10, 0, 0, 1⟩, false⟩]

/-- The turns of a setup with events up to the look that picks its interface. -/
def beforeLook : List (Occurrence {}) :=
  [.step (.turn 0 (.caller (.readGeneration subscribed)) ()),
    .step (.turn 0 (.caller (.start subscribed (.events 0))) ())]

/-- The four turns after it. -/
def afterLook : List (Occurrence {}) :=
  [.step (.turn 0 (.caller (.subscribe subscribed 0 "eth1")) (.ok ⟨0⟩)),
    .step (.turn 0 (.caller (.keepSubscription subscribed 0 "eth1" ⟨0⟩)) ()),
    .step (.turn 0 (.caller (.assign subscribed (.events 0 ⟨0⟩) "eth1")) (.ok ())),
    .step (.turn 0 (.caller (.setServers subscribed (.events 0 ⟨0⟩) "eth1")) (.ok ()))]

/-- The second wired interface is configured there, though the first one comes before it. -/
theorem live_interface_configured_patched :
    let p : Probes := ⟨fun _ => true, fun _ => false⟩
    let d : Deployment Host.StandIns :=
      { system := System.join {} (.call subscribed), network := {}, machine := patched
        shell := {} }
    ∃ m d', d.run? p Host.StandIns.finder Host.StandIns.shell
        (.step (.turn 0 (.caller (.claim subscribed)) ()) :: beforeLook) = some m ∧
      m.run? p Host.StandIns.finder Host.StandIns.shell
        (.step (.turn 0 (.caller (.find subscribed (.events 0))) (.ok patchedSeen)) :: afterLook) =
          some d' ∧
      patchedSeen = m.seen p ∧
      commandsIn (eventsOf (beforeLook ++ afterLook)) = subscribed.commands "eth1" := by
  intro p d
  have unclaimed : d.system.Unclaimed := ⟨.fresh, by decide⟩
  obtain ⟨m, first⟩ : ∃ m, d.run? p Host.StandIns.finder Host.StandIns.shell
    (.step (.turn 0 (.caller (.claim subscribed)) ()) :: beforeLook) = some m := ⟨_, rfl⟩
  obtain ⟨d', looked⟩ : ∃ d', m.run? p Host.StandIns.finder Host.StandIns.shell
      (.step (.turn 0 (.caller (.find subscribed (.events 0))) (.ok patchedSeen)) :: afterLook) =
        some d' := by
    cases first
    exact ⟨_, rfl⟩
  have chosen : Host.choose? p .ethernet m.machine =
      some ⟨"eth1", 3, true, [.v6, .v4 ⟨10, 0, 0, 9⟩, .v4 ⟨10, 0, 0, 8⟩]⟩ := by
    cases first
    rfl
  obtain ⟨seen, configured, -⟩ :=
    (live_interface_configured p).2 unclaimed (by decide) first looked
  obtain ⟨-, all, -⟩ := configured _ chosen
  exact ⟨m, d', first, looked, Except.ok.inj seen, (all (by decide)).resolve_right (by decide)⟩

end Deployment

end Uplink.Readiness
