import Uplink.Proofs.Host.Commands

/-!
# What a host's network remembers of DHCP

A network marks the interfaces whose address it last asked DHCP for, and lists them so. The mark is
set before anything is tried, so it follows what was asked and not what succeeded. The two differ
exactly after a failed command that asked for a change.

## Main definitions

- `NetworkCommand.asksDhcp?`: what a command asks for an interface.
- `HostNetwork.marks`: whether an interface is marked.
- `lastAsked?`, `lastGranted?`: what was asked last, and what was asked last with success.
- `Attempt.asksChange`: whether a command asks for the opposite of a mark.

## Main results

- `HostNetwork.marks_note`: what a command does to the marks.
- `HostNetwork.snapshot_unchanged_iff`: the commands that leave all listings alone.
- `HostNetwork.listed_dhcp`: what the listing tells after any commands.
-/

namespace Uplink

/-- Whether a command asks for an address by DHCP or for another one for the interface of a name. -/
def NetworkCommand.asksDhcp? (name : String) : NetworkCommand → Option Bool
  | .staticAddress other .. => if other = name then some false else none
  | .dhcp other => if other = name then some true else none
  | _ => none

namespace Host

variable {S : Type}

/-- What was last asked for an interface. -/
def lastAsked? (name : String) (cs : List NetworkCommand) : Option Bool :=
  cs.reverse.findSome? (·.asksDhcp? name)

/-- What was last asked with success for an interface. -/
def lastGranted? (name : String) (ts : List (Attempt S)) : Option Bool :=
  ts.reverse.findSome? fun t =>
    if t.performance.result.isOk then t.command.asksDhcp? name else none

/-- Whether an interface is marked as one that has its address by DHCP. -/
def HostNetwork.marks (h : HostNetwork) (name : String) : Bool := h.dhcp.contains name

/-- Whether a command asks for the opposite of what its interface is marked as. -/
def Attempt.asksChange (t : Attempt S) : Bool :=
  (t.command.asksDhcp? t.command.interface).any (· != t.network.marks t.command.interface)

/-- The network that is left after commands. -/
def HostNetwork.after (h : HostNetwork) (ts : List (Attempt S)) : HostNetwork :=
  (ts.getLast?.map (·.performance.network)).getD h

/-- A command asks something of its own interface only. -/
theorem interface_of_asksDhcp? {c : NetworkCommand} {name : String} {asked : Bool}
    (asks : c.asksDhcp? name = some asked) : c.interface = name := by
  cases c with
  | staticAddress other a mask gateway => exact (Option.ite_none_right_eq_some.mp asks).1
  | dhcp other => exact (Option.ite_none_right_eq_some.mp asks).1
  | staticServers other servers => cases asks
  | automaticServers other => cases asks

theorem Attempt.isOk_iff_not_failed {t : Attempt S} :
    t.performance.result.isOk = true ↔ ¬ t.Failed := by
  unfold Failed
  cases t.performance.result <;> simp [Except.isOk, Except.toBool]

namespace HostNetwork

variable {h : HostNetwork} {finder : PrefixFinder} {shell : Shell S} {s : S} {c : NetworkCommand}
  {cs : List NetworkCommand} {t : Attempt S} {name : String}

/-! ## Marks -/

/-- A command marks its interface as asked, and no other. -/
theorem marks_note (h : HostNetwork) (c : NetworkCommand) (name : String) :
    (h.note c).marks name = (c.asksDhcp? name).getD (h.marks name) := by
  cases c with
  | staticAddress other a mask gateway =>
    by_cases same : other = name
    · simp [note, marks, NetworkCommand.asksDhcp?, same]
    · simp [note, marks, NetworkCommand.asksDhcp?, same, Ne.symm same]
  | dhcp other =>
    have noted : (h.note (.dhcp other)).marks name =
        if h.dhcp.contains other then h.marks name else (h.dhcp ++ [other]).contains name := by
      rw [note, marks]
      split <;> rfl
    rw [noted]
    by_cases same : other = name
    · subst same
      split
      next there => simpa [NetworkCommand.asksDhcp?, marks] using there
      next => simp [NetworkCommand.asksDhcp?]
    · simp [NetworkCommand.asksDhcp?, marks, same, Ne.symm same]
  | staticServers other servers => rfl
  | automaticServers other => rfl

/-- The listing shows the marks. -/
theorem dhcp_of_mem_snapshot {p : Probes} {machine : List MachineInterface} {i : Interface}
    (listed : i ∈ h.snapshot p machine) : i.dhcp = h.marks i.name := by
  simp only [snapshot, Host.snapshot, List.mem_map] at listed
  obtain ⟨shown, -, rfl⟩ := listed
  rfl

/-- Two networks list every machine alike exactly if they have the same marks. -/
theorem snapshot_eq_iff {h h' : HostNetwork} :
    (∀ p machine, h'.snapshot p machine = h.snapshot p machine) ↔
      ∀ name, h'.marks name = h.marks name := by
  constructor
  · intro alike name
    have shown := alike .blind [⟨name, 0, false, []⟩]
    simpa [snapshot, Host.snapshot, MachineInterface.isUp, MachineInterface.hasFlag,
      MachineInterface.toInterface, marks] using shown
  · intro same p machine
    have marked : h'.dhcp.contains = h.dhcp.contains := funext same
    rw [snapshot, snapshot, marked]

/-- Exactly the commands that ask for a change show in some listing. -/
theorem snapshot_unchanged_iff (mem : t ∈ h.performAll finder shell s cs) :
    (∀ p machine, t.performance.network.snapshot p machine = t.network.snapshot p machine) ↔
      t.asksChange = false := by
  rw [snapshot_eq_iff, (eq_perform_of_mem mem).2, network_perform, Attempt.asksChange,
    Option.any_eq_false]
  constructor
  · intro same asked asks
    have marked := marks_note t.network t.command t.command.interface
    rw [asks, same, Option.getD_some] at marked
    simp [marked]
  · intro content name
    rw [marks_note]
    cases asks : t.command.asksDhcp? name with
    | none => rfl
    | some asked =>
      obtain rfl := interface_of_asksDhcp? asks
      simpa using content asked asks

/-! ## After commands -/

theorem after_performAll_cons :
    h.after (h.performAll finder shell s (c :: cs)) =
      (h.note c).after
        ((h.note c).performAll finder shell (h.perform finder shell s c).shell cs) := by
  simp only [performAll, network_perform, after]
  cases (h.note c).performAll finder shell (h.perform finder shell s c).shell cs with
  | nil => simp
  | cons t rest => rw [List.getLast?_cons_cons, List.getLast?_cons, Option.map_some]; rfl

/-- The marks follow what was asked. -/
theorem marks_after (name : String) :
    (h.after (h.performAll finder shell s cs)).marks name =
      (lastAsked? name cs).getD (h.marks name) := by
  induction cs generalizing h s with
  | nil => rfl
  | cons c rest ih =>
    rw [after_performAll_cons, ih, marks_note, lastAsked?, lastAsked?, List.reverse_cons,
      List.findSome?_append, List.findSome?_singleton]
    cases rest.reverse.findSome? (·.asksDhcp? name) <;> rfl

/-- The marks follow what was granted if no command failed that asked for a change. -/
theorem marks_after_of_content
    (content : ∀ t ∈ h.performAll finder shell s cs, t.Failed → t.asksChange = false)
    (name : String) :
    (h.after (h.performAll finder shell s cs)).marks name =
      (lastGranted? name (h.performAll finder shell s cs)).getD (h.marks name) := by
  induction cs generalizing h s with
  | nil => rfl
  | cons c rest ih =>
    have later := ih (h := h.note c) (s := (h.perform finder shell s c).shell) fun t mem =>
      content t (by simp [performAll, mem])
    -- A first command that failed left the mark as it was, a first one that succeeded is granted.
    have first : (h.note c).marks name =
        ((if (h.perform finder shell s c).result.isOk then c.asksDhcp? name else none).getD
          (h.marks name)) := by
      split
      next => exact marks_note h c name
      next failed =>
        have failed : Attempt.Failed ⟨h, s, c, h.perform finder shell s c⟩ := by
          rwa [← not_not (a := Attempt.Failed _), ← Attempt.isOk_iff_not_failed]
        have attempted : ⟨h, s, c, h.perform finder shell s c⟩ ∈
            h.performAll finder shell s (c :: rest) := List.mem_cons_self ..
        have unchanged := (snapshot_unchanged_iff attempted).mpr (content _ attempted failed)
        simpa using snapshot_eq_iff.mp unchanged name
    rw [after_performAll_cons, later, first, lastGranted?, lastGranted?, performAll,
      List.reverse_cons, List.findSome?_append, List.findSome?_singleton, network_perform]
    generalize (h.note c).performAll finder shell (h.perform finder shell s c).shell rest = ts
    cases ts.reverse.findSome? _ <;> rfl

/-- The listing tells what was last asked for an interface. It tells what was last granted if every
failed command asked for what was marked already, and just those leave all listings alone. -/
theorem listed_dhcp (h : HostNetwork) (finder : PrefixFinder) (shell : Shell S) (s : S)
    (cs : List NetworkCommand) :
    let ts := h.performAll finder shell s cs
    (∀ p machine, ∀ i ∈ (h.after ts).snapshot p machine,
      i.dhcp = (lastAsked? i.name cs).getD (h.marks i.name)) ∧
    (∀ t ∈ ts,
      (∀ p machine,
        t.performance.network.snapshot p machine = t.network.snapshot p machine) ↔
      t.asksChange = false) ∧
    ((∀ t ∈ ts, t.Failed → t.asksChange = false) →
      ∀ p machine, ∀ i ∈ (h.after ts).snapshot p machine,
        i.dhcp = (lastGranted? i.name ts).getD (h.marks i.name)) := by
  refine ⟨fun p machine i listed => ?_, fun t mem => snapshot_unchanged_iff mem,
    fun content p machine i listed => ?_⟩
  · rw [dhcp_of_mem_snapshot listed, marks_after]
  · rw [dhcp_of_mem_snapshot listed, marks_after_of_content content]

/-- Asking DHCP a second time fails, and the interface stays one that has its address by DHCP. -/
theorem listed_dhcp_second :
    let s : StandIns := { script := { failing := [⟨"dhclient", 2, 1, []⟩] } }
    let h : HostNetwork := { mode := .apply }
    let ts := h.performAll StandIns.finder StandIns.shell s [.dhcp "eth0", .dhcp "eth0"]
    ts.map (·.performance.result.toBool) = [true, false] ∧
      (∀ t ∈ ts, t.Failed → t.asksChange = false) ∧
      ∀ p machine, ∀ i ∈ (h.after ts).snapshot p machine, i.name = "eth0" → i.dhcp = true := by
  intro s h ts
  have content : ∀ t ∈ ts, t.Failed → t.asksChange = false := by
    have listed : ∀ t ∈ ts, t.performance.result.isOk = true ∨ t.asksChange = false := by
      decide +kernel
    exact fun t mem failed => (listed t mem).resolve_left fun ok =>
      Attempt.isOk_iff_not_failed.mp ok failed
  have granted : lastGranted? "eth0" ts = some true := by decide +kernel
  refine ⟨by decide +kernel, content, fun p machine i listed named => ?_⟩
  rw [(listed_dhcp h StandIns.finder StandIns.shell s _).2.2 content p machine i listed, named,
    granted]
  rfl

/-- The loopback interface has a static address, a program to ask DHCP fails, and from then on it is
listed as one that has its address by DHCP. What is found out about the hardware is no matter. -/
theorem failed_dhcp_is_listed :
    let s : StandIns := { script := { failing := [⟨"dhclient", 1, 1, []⟩] } }
    let h : HostNetwork := { mode := .apply }
    let ts := h.performAll StandIns.finder StandIns.shell s
      [.staticAddress "lo" (.ofOctets ⟨10, 0, 0, 7⟩) (.ofOctets ⟨255, 255, 255, 0⟩) .any,
        .dhcp "lo"]
    let machine : List MachineInterface := [⟨"lo", 9, true, [.v4 ⟨10, 0, 0, 7⟩]⟩]
    let listed (dhcp : Bool) : List Interface := [⟨"lo", .loopback, .ofOctets ⟨10, 0, 0, 7⟩, dhcp⟩]
    ts.map (·.performance.result.toBool) = [true, false] ∧
      (∀ p, ts.map (·.network.snapshot p machine) = [listed false, listed false]) ∧
      (∀ p, ts.map (·.performance.network.snapshot p machine) = [listed false, listed true]) ∧
      lastGranted? "lo" ts = some false := by
  intro s h ts machine listed
  -- The kind of a loopback interface is told from its flags alone.
  have snapshot (h : HostNetwork) (p : Probes) : h.snapshot p machine = listed (h.marks "lo") := rfl
  simp only [snapshot]
  exact ⟨by decide +kernel, fun _ => by decide +kernel, fun _ => by decide +kernel,
    by decide +kernel⟩

end HostNetwork

end Host

end Uplink
