import Uplink.Readiness.Ending
import Uplink.Readiness.Probe

/-!
# The calling thread of a setup

There are two ways to set up the network. With events, the caller configures the interface and
leaves the wait to a background worker, which a subscription tells of address changes. By polling,
the caller itself looks again and again until the network is ready or its token is cancelled.

## Main definitions

- `Setup`: what a caller asks for.
- `Caller`: the places in a setup, each named for the step that comes next.
- `Caller.request`, `Caller.step`: what that step asks of the outside, and what it does.
- `Verdict`: what the caller gets back.
-/

namespace Uplink.Readiness

/-- The two ways to wait. -/
inductive Mode where
  | events
  | polling
  deriving DecidableEq, Repr

/-- What a caller asks for; no configuration means DHCP with automatic name servers. -/
structure Setup where
  mode : Mode
  configuration : Option IpConfiguration
  requiresClock : Bool
  deriving DecidableEq, Repr

/-- The address of the static configuration, if there is one. -/
def Setup.desired (s : Setup) : Option Address := s.configuration.map (·.address)

/-- What a caller gets back. -/
inductive Verdict where
  /-- The event-driven setup was admitted; its worker goes on, or its fault is kept. -/
  | accepted
  /-- The polling setup is over, and the network is ready or not. -/
  | answered (ready : Bool)
  | refused (e : SetupError)
  deriving DecidableEq, Repr

/-- What the caller gets back from an ending that it brought about itself. -/
def Ending.verdict (target : InterfaceKind) (mode : Mode) : Ending → Verdict
  | noInterface found => .refused (.noInterface target found)
  | ready =>
    match mode with
    | .events => .accepted
    | .polling => .answered true
  | _ =>
    match mode with
    | .events => .accepted
    | .polling => .answered false

/-- What a caller carries through the steps that both ways share before the interface is
configured: with events, the count of resets at the start. -/
inductive Approach where
  | events (generation : UInt64)
  | polling
  deriving DecidableEq, Repr

/-- What a caller carries from there on: with events, also its subscription. -/
inductive Route where
  | events (generation : UInt64) (channel : SubscriptionId)
  | polling
  deriving DecidableEq, Repr

/-- The places in a setup, each named for the step that comes next. -/
inductive Caller where
  | claim (s : Setup)
  | readGeneration (s : Setup)
  | start (s : Setup) (a : Approach)
  | find (s : Setup) (a : Approach)
  | subscribe (s : Setup) (generation : UInt64) (interface : String)
  | keepSubscription (s : Setup) (generation : UInt64) (interface : String) (id : SubscriptionId)
  | assign (s : Setup) (r : Route) (interface : String)
  | setServers (s : Setup) (r : Route) (interface : String)
  | keepConfiguration (s : Setup) (r : Route)
  | settle (s : Setup) (r : Route)
  | startWorker (s : Setup) (generation : UInt64) (channel : SubscriptionId)
  | checkToken (s : Setup)
  | poll (s : Setup)
  | pollPause (s : Setup)
  | observe (s : Setup)
  | checkTokenForClock (s : Setup)
  | readClock (s : Setup)
  | clockPause (s : Setup)
  | conclude (s : Setup) (e : Ending) (stage : Ending.Stage)
  | returned (v : Verdict)
  deriving DecidableEq, Repr

namespace Caller

/-- The command that gives the interface its address. -/
def addressCommand (s : Setup) (interface : String) : NetworkCommand :=
  match s.configuration with
  | some c => .staticAddress interface c.address c.mask c.gateway
  | none => .dhcp interface

/-- The command that sets the name servers. -/
def serversCommand (s : Setup) (interface : String) : NetworkCommand :=
  match s.configuration with
  | some c => if c.servers.isEmpty then .automaticServers interface
    else .staticServers interface c.servers
  | none => .automaticServers interface

/-- The fault of a refused address command. -/
def addressFault (s : Setup) (interface : String) (cause : ErrorChain) : Fault :=
  match s.configuration with
  | some c => .staticAddress c interface cause
  | none => .dhcp interface cause

/-- What is logged before the address command. -/
def announce (s : Setup) (interface : String) : Log.Line :=
  match s.configuration with
  | some c => ⟨.debug, s!"applying static configuration {c.text} to {interface}"⟩
  | none => ⟨.debug, s!"requesting DHCP on {interface}"⟩

/-- What the polling caller waits for. -/
def probe (cfg : Config) (s : Setup) : Probe := ⟨cfg.target, s.desired⟩

/-- The next step is the first write of an ending. -/
def ending (s : Setup) (e : Ending) (c : Cells) : Move Caller :=
  { cells := c, next := .conclude s e e.firstStage, log := e.prologue }

/-- What the next step asks of the outside. -/
@[reducible] def request (cfg : Config) : Caller → Request
  | find .. => .listInterfaces
  | subscribe .. => .subscribe
  | assign s _ interface => .command (addressCommand s interface)
  | setServers s _ interface => .command (serversCommand s interface)
  | settle .. => .pause cfg.settleDelay
  | startWorker s generation channel =>
    .startWorker ⟨channel, s.desired, s.requiresClock, generation⟩
  | checkToken _ => .readToken
  | poll _ => .listInterfaces
  | pollPause _ => .pause cfg.pollInterval
  | checkTokenForClock _ => .readToken
  | readClock _ => .readClock
  | clockPause _ => .pause cfg.clockPollInterval
  | _ => .nothing

/-- Only the first caller since the last reset is admitted. -/
def stepClaim (s : Setup) (c : Cells) : Move Caller :=
  if c.claimed then { cells := c, next := .returned (.refused .alreadySetUp) }
  else
    { cells := { c with claimed := true }
      next := (match s.mode with
        | .events => .readGeneration s
        | .polling => .start s .polling) }

/-- The first look at the interfaces picks the one that is configured. -/
def stepFind (cfg : Config) (s : Setup) (a : Approach) (c : Cells)
    (reply : Except ErrorChain (List Interface)) : Move Caller :=
  match reply with
  | .error cause => ending s (.failed (.listing cause)) c
  | .ok interfaces =>
    match Probe.pick? cfg.target interfaces with
    | none => ending s (.noInterface interfaces.length) c
    | some i =>
      match a with
      | .events generation => { cells := c, next := .subscribe s generation i.name }
      | .polling => { cells := c, next := .assign s .polling i.name, log := [announce s i.name] }

/-- Without a subscription there is nothing to wait with. -/
def stepSubscribe (s : Setup) (generation : UInt64) (interface : String) (c : Cells)
    (reply : Except ErrorChain SubscriptionId) : Move Caller :=
  match reply with
  | .error cause => ending s (.failed (.subscribing cause)) c
  | .ok id => { cells := c, next := .keepSubscription s generation interface id }

/-- The name servers are set only after the address was. -/
def stepAssign (s : Setup) (r : Route) (interface : String) (c : Cells)
    (reply : Except ErrorChain Unit) : Move Caller :=
  match reply with
  | .error cause => ending s (.failed (addressFault s interface cause)) c
  | .ok () => { cells := c, next := .setServers s r interface }

/-- The configuration counts as applied once both commands have succeeded. -/
def stepSetServers (s : Setup) (r : Route) (interface : String) (c : Cells)
    (reply : Except ErrorChain Unit) : Move Caller :=
  match reply with
  | .error cause => ending s (.failed (.servers interface cause)) c
  | .ok () => { cells := c, next := .keepConfiguration s r }

/-- The event-driven caller is done when its worker runs. -/
def stepStartWorker (s : Setup) (c : Cells) (reply : Except ErrorChain Unit) : Move Caller :=
  match reply with
  | .error cause => ending s (.failed (.starting cause)) c
  | .ok () => { cells := c, next := .returned .accepted }

/-- A cancelled token ends the wait; only then comes the next look. -/
def stepToken (s : Setup) (awaited : Awaited) (c : Cells) (cancelled : Bool) : Move Caller :=
  if cancelled then ending s (.expired awaited) c
  else
    { cells := c
      next := (match awaited with
        | .address => .poll s
        | .clock => .readClock s) }

/-- One look at the interfaces while waiting. -/
def stepPoll (cfg : Config) (s : Setup) (c : Cells)
    (reply : Except ErrorChain (List Interface)) : Move Caller :=
  match reply with
  | .error cause => ending s (.failed (.looking cause)) c
  | .ok interfaces =>
    { cells := c
      next := if (probe cfg s).satisfiedBy interfaces then .observe s else .pollPause s }

/-- The address is there; the wall clock may still have to be waited for. -/
def stepObserve (s : Setup) (c : Cells) : Move Caller :=
  let seen := { c with addressObserved := c.addressObserved.raise }
  if s.requiresClock then
    { cells := seen, next := .checkTokenForClock s, log := [clockNotice] }
  else ending s .ready seen

/-- One reading of the wall clock while waiting. -/
def stepClock (cfg : Config) (s : Setup) (c : Cells) (year : Int) : Move Caller :=
  if cfg.minYear ≤ year then ending s .ready c
  else { cells := c, next := .clockPause s }

/-- One step of a caller. -/
def step (cfg : Config) (c : Cells) : (t : Caller) → (t.request cfg).Reply → Move Caller
  | claim s, _ => stepClaim s c
  | readGeneration s, _ => { cells := c, next := .start s (.events c.generation) }
  | start s a, _ =>
    { cells := { c with status := .started }
      next := .find s a
      log := [⟨.debug, s!"network setup started for the {cfg.target.text} interface"⟩] }
  | find s a, reply => stepFind cfg s a c reply
  | subscribe s generation interface, reply => stepSubscribe s generation interface c reply
  | keepSubscription s generation interface id, _ =>
    { cells := { c with subscription := some id }
      next := .assign s (.events generation id) interface
      log := [announce s interface] }
  | assign s r interface, reply => stepAssign s r interface c reply
  | setServers s r interface, reply => stepSetServers s r interface c reply
  | keepConfiguration s r, _ =>
    { cells := { c with applied := s.configuration }, next := .settle s r }
  | settle s (.events generation channel), _ =>
    { cells := c, next := .startWorker s generation channel }
  | settle s .polling, _ => { cells := c, next := .checkToken s }
  | startWorker s _ _, reply => stepStartWorker s c reply
  | checkToken s, cancelled => stepToken s .address c cancelled
  | poll s, reply => stepPoll cfg s c reply
  | pollPause s, _ => { cells := c, next := .checkToken s }
  | observe s, _ => stepObserve s c
  | checkTokenForClock s, cancelled => stepToken s .clock c cancelled
  | readClock s, year => stepClock cfg s c year
  | clockPause s, _ => { cells := c, next := .checkTokenForClock s }
  | conclude s e stage, _ =>
    e.step cfg stage (.conclude s e) (.returned (e.verdict cfg.target s.mode)) c
  | returned v, _ => { cells := c, next := .returned v }

/-- What the caller got back, once the setup is over. -/
def verdict? : Caller → Option Verdict
  | returned v => some v
  | _ => none

end Caller

end Uplink.Readiness
