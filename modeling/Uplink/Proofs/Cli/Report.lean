import Uplink.Cli.Report
import Uplink.Proofs.Cli.Layout
import Uplink.Proofs.Readiness.Applied

/-!
# What a report says of the configuration

A report has one line about the configuration. It is told from the cell of the configuration that
was applied, and that cell is empty for two reasons: no static configuration was asked for, or one
was asked for and the setup broke off before both of its commands were carried out. The line says
the same of both, that the address comes from DHCP.

So a static configuration is named exactly where the setup got past its commands. Where it did not,
the line of the status tells of a fault.

## Main definitions

- `Report.wording`: how a report names what was asked for.

## Main results

- `Report.configuration_line`: what the line says after a setup, by the commands that were carried
  out.
- `Report.static_setup_reads_dhcp`: a static configuration was asked for, and the line says DHCP.
-/

namespace Uplink

/-- A static configuration is written with a slash. -/
theorem IpConfiguration.slash_mem_text (c : IpConfiguration) : '/' ∈ c.text.toList := by
  have slash : (toString "/").toList = ['/'] := rfl
  rw [text]
  split <;> simp [slash]

namespace Report

open Readiness

variable {cfg : Config} {c : Cells}

/-- How a report names a configuration; no configuration means DHCP. -/
def wording : Option IpConfiguration → String
  | some c => c.text
  | none => "dhcp"

/-- No static configuration is named like DHCP. -/
theorem wording_eq_dhcp {configuration : Option IpConfiguration} :
    wording configuration = "dhcp" ↔ configuration = none := by
  cases configuration with
  | none => exact iff_of_true rfl rfl
  | some c =>
    refine iff_of_false (fun same => ?_) nofun
    have slash : '/' ∈ (wording (some c)).toList := c.slash_mem_text
    rw [same] at slash
    exact absurd slash (by decide)

/-- The three lines of a report. -/
theorem lines_eq (c : Cells) (elapsed : String) :
    lines c elapsed = ["> Status..: " ++ c.status.text, "> Config..: " ++ wording c.applied,
      "> Elapsed.: " ++ elapsed] := by
  have width : Layout.keyWidth ["Status", "Config", "Elapsed"] = 7 := by decide
  have rows : lines c elapsed = Layout.table
      [("Status", c.status.text), ("Config", wording c.applied), ("Elapsed", elapsed)] := rfl
  simp only [rows, Layout.table, List.map_cons, List.map_nil, width]
  rw [Layout.aligned_eq _ (by decide : _ = "> Status..: "),
    Layout.aligned_eq _ (by decide : _ = "> Config..: "),
    Layout.aligned_eq _ (by decide : _ = "> Elapsed.: ")]

/-- What a report says once a setup has returned without being refused, whatever its replies and
whatever has happened since. The line of the configuration names what was asked for if both commands
of the setup were carried out. If not, it says DHCP, and there is a fault to tell. So it says DHCP
exactly if no static configuration was asked for or a command of it was not carried out. -/
theorem configuration_line {m s : System} {i : Nat} {setup : Setup} {v : Verdict}
    {es : List (Event cfg)} (unclaimed : m.Unclaimed) (unapplied : m.cells.applied = none)
    (calm : Calm es) (run : m.run? (.turn i (.caller (.claim setup)) () :: es) = some s)
    (back : s.threads[i]? = some (.caller (.returned v))) (accepted : ∀ e, v ≠ .refused e)
    (elapsed : String) :
    ∃ value, lines s.cells elapsed = ["> Status..: " ++ s.cells.status.text,
        "> Config..: " ++ value, "> Elapsed.: " ++ elapsed] ∧
      ((∃ name, doneIn es = setup.commands name) → value = wording setup.configuration) ∧
      ((¬∃ name, doneIn es = setup.commands name) →
        value = "dhcp" ∧ s.cells.status = .faulted ∧ s.cells.lastError.isSome = true) ∧
      (value = "dhcp" ↔
        setup.configuration = none ∨ ¬∃ name, doneIn es = setup.commands name) := by
  obtain ⟨t, led, accounts⟩ := System.Led.accounts unclaimed unapplied calm run
  cases led.own.symm.trans back
  have accounted := accounts.accounted
  have named : (∃ name, doneIn es = setup.commands name) →
      wording s.cells.applied = wording setup.configuration := by
    rintro ⟨name, all⟩
    rw [accounted.applied_of_done all]
  have unnamed (few : ¬∃ name, doneIn es = setup.commands name) :
      wording s.cells.applied = "dhcp" := wording_eq_dhcp.mpr (accounted.applied_of_not_done few)
  refine ⟨wording s.cells.applied, lines_eq _ _, named, fun few => ⟨unnamed few, ?_⟩, ?_⟩
  · exact System.faulted_of_not_done unclaimed unapplied calm run back accepted few
  · by_cases all : ∃ name, doneIn es = setup.commands name
    · rw [named all, wording_eq_dhcp, or_iff_left (not_not_intro all)]
    · exact iff_of_true (unnamed all) (.inr all)

/-- A setup by polling with a static configuration. -/
def fixed : Setup :=
  ⟨.polling, some ⟨.ofOctets ⟨10, 20, 0, 15⟩, .ofOctets ⟨255, 255, 0, 0⟩, .ofOctets ⟨10, 20, 0, 1⟩,
    []⟩, false⟩

/-- After the claim of this setup: the turns up to its address command, which gets this reply. -/
def untilAssigned (reply : Except ErrorChain Unit) : List (Event {}) :=
  [.turn 0 (.caller (.start fixed .polling)) (),
    .turn 0 (.caller (.find fixed .polling)) (.ok [⟨"eth0", .ethernet, .any, false⟩]),
    .turn 0 (.caller (.assign fixed .polling "eth0")) reply]

/-- Both commands are carried out, and then the token is cancelled. -/
def cancelled : List (Event {}) :=
  untilAssigned (.ok ()) ++
    [.turn 0 (.caller (.setServers fixed .polling "eth0")) (.ok ()),
      .turn 0 (.caller (.keepConfiguration fixed .polling)) (),
      .turn 0 (.caller (.settle fixed .polling)) (),
      .turn 0 (.caller (.checkToken fixed)) true,
      .turn 0 (.caller (.conclude fixed (.expired .address) .release)) (),
      .turn 0 (.caller (.conclude fixed (.expired .address) .publish)) (),
      .turn 0 (.caller (.conclude fixed (.expired .address) .settle)) ()]

/-- The setup is given up, but its configuration was applied and is named. -/
theorem configuration_line_cancelled :
    ∃ s : System, (System.join {} (.call fixed)).run?
        (.turn 0 (.caller (.claim fixed)) () :: cancelled) = some s ∧
      s.threads[0]? = some (.caller (.returned (.answered false))) ∧
      lines s.cells "3.00s" = ["> Status..: cancelled while waiting for an IP address",
        "> Config..: 10.20.0.15/16 via 10.20.0.1", "> Elapsed.: 3.00s"] := by
  have unclaimed : (System.join {} (.call fixed)).Unclaimed := ⟨.fresh, by decide⟩
  obtain ⟨s, run⟩ : ∃ s, (System.join {} (.call fixed)).run?
    (.turn 0 (.caller (.claim fixed)) () :: cancelled) = some s := ⟨_, rfl⟩
  have back : s.threads[0]? = some (.caller (.returned (.answered false))) := by
    cases run
    rfl
  obtain ⟨value, whole, named, -⟩ :=
    configuration_line unclaimed rfl (by decide) run back nofun "3.00s"
  refine ⟨s, run, back, ?_⟩
  rw [whole, named ⟨"eth0", rfl⟩]
  cases run
  decide

/-- The error of a driver. -/
def refusal : ErrorChain := .ofMessage "driver refused the address"

/-- The address command is refused. -/
def assignmentRefused : List (Event {}) :=
  let e : Ending := .failed (Caller.addressFault fixed "eth0" refusal)
  untilAssigned (.error refusal) ++
    [.turn 0 (.caller (.conclude fixed e .release)) (),
      .turn 0 (.caller (.conclude fixed e .keepFault)) (),
      .turn 0 (.caller (.conclude fixed e .publish)) (),
      .turn 0 (.caller (.conclude fixed e .settle)) ()]

/-- Not every report names the kind of configuration that was asked for: a static one was, the
address command failed, and the line says DHCP, which nobody has asked for. -/
theorem static_setup_reads_dhcp :
    ¬∀ (setup : Setup) (es : List (Event {})) (s : System) (v : Verdict),
      Calm es →
      (System.join {} (.call setup)).run? (.turn 0 (.caller (.claim setup)) () :: es) = some s →
      s.threads[0]? = some (.caller (.returned v)) → (∀ e, v ≠ .refused e) →
      ("> Config..: dhcp" ∈ lines s.cells "1.23s" ↔ setup.configuration = none) := by
  intro faithful
  obtain ⟨s, run⟩ : ∃ s, (System.join {} (.call fixed)).run?
    (.turn 0 (.caller (.claim fixed)) () :: assignmentRefused) = some s := ⟨_, rfl⟩
  have back : s.threads[0]? = some (.caller (.returned (.answered false))) := by
    cases run
    rfl
  have reads : "> Config..: dhcp" ∈ lines s.cells "1.23s" := by
    cases run
    decide
  cases (faithful fixed assignmentRefused s _ (by decide) run back nofun).mp reads

end Report

end Uplink
