import Uplink.Buffer.Hash
import Uplink.Cli.Parse
import Uplink.Cli.Report
import Uplink.Cli.Screen
import Uplink.Endpoint.Wire
import Uplink.Rehearsal.HostScene
import Uplink.Text.Hex

/-!
# A run of the program

The program reads its arguments, carries one command out and ends with a code. The host it runs on
is scripted.

## Main definitions

- `Surroundings`: the host that the program finds.
- `Session.encode`, `Session.decode`, `Session.interfaces`, `Session.wait`: the commands.
- `Session.run`: a run of the program.
-/

namespace Uplink.Cli

open Host Readiness Rehearsal

/-- The host that the program finds. -/
structure Surroundings where
  /-- What the looks at the machine see, one after the other; the last frame stays. -/
  frames : List (List MachineInterface)
  /-- What can be found out about the hardware of the machine. -/
  probes : Probes := .blind
  script : Script := {}
  /-- The year that the wall clock shows. -/
  year : Int
  /-- The number of looks after which the user interrupts the program. -/
  interruptAfter : Option Nat := none
  /-- How the time is shown that a wait took. -/
  showElapsed : Duration → String := Seconds.elapsedText

/-- What came of a command: what was shown, the programs that were run, and the error if there was
one. -/
structure Effect where
  entries : List Entry
  calls : List Invocation := []
  result : Except ErrorChain Unit := .ok ()

/-- What is left of a run of the program. -/
structure Output where
  code : UInt32
  stdout : String
  stderr : String
  /-- The programs that were run. -/
  calls : List Invocation := []
  deriving DecidableEq, Repr

namespace Session

/-- The error of a codec. -/
def codecChain (e : CodecError) : ErrorChain := .ofMessage e.message

/-- Printed lines. -/
def printed (lines : List String) : List Entry := lines.map Screen.print

/-- Shows the bytes of an endpoint. -/
def encode (e : Endpoint) : Effect :=
  match e.toBuffer with
  | .error cause => { entries := [], result := .error (codecChain cause) }
  | .ok b =>
    let notice : Entry :=
      ⟨Screen.codecTarget, ⟨.trace, s!"serialized {e.text} into {b.size} bytes"⟩⟩
    { entries := notice :: printed (Layout.table [
        ("Endpoint", e.text),
        ("Bytes", Text.Hex.ofBytes b.bytes),
        ("Hash", Text.hexWord b.foldHash)]) }

/-- The endpoint of a text of bytes. -/
def endpointOf (hex : String) : Except ErrorChain Endpoint := do
  let bytes ← (Text.Hex.toBytes hex).mapError (·.chain)
  (Endpoint.ofBuffer ⟨bytes⟩).mapError fun e =>
    .wrap "not a valid IPv4 socket address" (codecChain e)

/-- Shows the endpoint of bytes. -/
def decode (hex : String) : Effect :=
  match endpointOf hex with
  | .error e => { entries := [], result := .error e }
  | .ok e =>
    { entries := printed (Layout.table [
        ("Family", e.family.name),
        ("Address", e.address.text),
        ("Port", toString e.port.toNat)]) }

/-- The host as the program finds it. -/
def site (s : Surroundings) (mode : HostMode) : Site :=
  { network := { mode }
    frames := s.frames
    interval := .ofMillis 250
    programs := { script := s.script }
    probes := s.probes }

/-- The lines about one interface. -/
def interfaceLines (index : Nat) (i : Interface) : List String :=
  Layout.treeHead index i.name :: Layout.tree (Report.interface i)

/-- The lines about all interfaces. -/
def interfacesLines : List Interface → List String
  | [] => ["no network interfaces found"]
  | interfaces =>
    (interfaces.zipIdx.flatMap fun (i, index) => interfaceLines index i) ++ [Layout.separator]

/-- Lists the interfaces. -/
def interfaces (s : Surroundings) : Effect :=
  let (_, seen) := (site s .observe).look
  { entries := printed (Layout.header "network interfaces" :: interfacesLines seen) }

/-- The rehearsal of a wait: the coordinator on its host, before anything has happened. -/
def stage (s : Surroundings) (o : WaitOptions) : Play HostScene :=
  let (token, flags) := match o.timeout with
    | some limit => CancelToken.withTimeout [] ⟨0⟩ limit
    | none => CancelToken.fresh []
  { world := {
      config := { target := o.target, minYear := o.minYear }
      site := site s (if o.apply then .apply else .observe)
      year := s.year
      token
      flags
      interruptAfter := s.interruptAfter } }

/-- Waits until the network is ready, or gives up: whether it is ready, or why the coordinator did
not admit the setup. What is logged meanwhile is not seen. -/
def await (p : Play HostScene) (o : WaitOptions) (configuration : Option IpConfiguration) :
    Play HostScene × Except SetupError Bool :=
  let mode : Mode := if o.events then .events else .polling
  let (p, verdict, _) := p.call ⟨mode, configuration, o.requiresClock⟩
  match verdict with
  | some (.refused e) => (p, .error e)
  | some (.answered ready) => (p, .ok ready)
  | _ =>
    let (p, ready, _) := p.watch
    (p, .ok ready)

/-- Waits for the network and reports. -/
def wait (s : Surroundings) (o : WaitOptions) : Effect :=
  let header := Screen.print (Layout.header "waiting for the network")
  match o.configuration with
  | .error e => { entries := [header], result := .error (codecChain e) }
  | .ok configuration =>
    let (p, verdict) := await (stage s o) o configuration
    let cells := p.world.cells
    let calls := p.world.site.programs.calls
    match verdict with
    | .error e => { entries := [header], calls, result := .error (.ofMessage e.message) }
    | .ok ready =>
      let report := Report.lines cells (s.showElapsed ⟨p.now.nanos⟩)
      { entries := header :: printed report
        calls
        result := if ready then .ok ()
          else .error (.ofMessage (Report.notReady cells.status cells.lastError)) }

/-- Carries a command out. -/
def perform (s : Surroundings) : Command → Effect
  | .interfaces => interfaces s
  | .wait o => wait s o
  | .encode e => encode e
  | .decode hex => decode hex

/-- What is left when the arguments are no command. -/
def refuse : UsageError → Output
  | .helpWanted => { code := 0, stdout := Usage.help, stderr := "" }
  | .noArguments => { code := 2, stdout := "", stderr := Usage.help }
  | .breakdown reason => { code := 101, stdout := "", stderr := reason ++ "\n" }
  | e => { code := 2, stdout := "", stderr := s!"error: {e.message}\n" }

/-- A run of the program with a log setting and arguments. -/
def run (s : Surroundings) (setting : Option String) (arguments : List String) : Output :=
  match CommandLine.parse arguments with
  | .error e => refuse e
  | .ok line =>
    let effect := perform s line.command
    let stdout := Screen.render (Screen.filter setting line.verbosity) effect.entries
    match effect.result with
    | .ok () => { code := 0, stdout, stderr := "", calls := effect.calls }
    | .error e => { code := 1, stdout, stderr := s!"Error: {e.report}\n", calls := effect.calls }

end Session

end Uplink.Cli
