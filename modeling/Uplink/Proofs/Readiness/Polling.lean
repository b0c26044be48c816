import Uplink.Proofs.Readiness.Following

/-!
# The reference of a setup by polling

A setup by polling is one thread that asks and is answered: the network for its interfaces and for
the configuration, the token before each look, the clock. Its outcome is a function of these calls
alone. The reference is that function, by structural recursion on the calls and without threads,
cells or an order of writes; it also says which call comes next, since it gives no outcome for calls
that are missing, left over or out of turn.

The proof reads the reference off from the back: at each place of the caller there is a rest of the
reference, for the calls that are still to come. A turn of the caller takes its call from the front
and leaves the rest that belongs to the next place.

## Main definitions

- `Call`, `calls`: what was asked and answered, pauses aside.
- `Outcome`: what a caller and everybody else see in the end.
- `Polling.reference`: the outcome that goes with the calls of a setup.
- `Polling.Rest`: what is left of it at each place of the caller.

## Main results

- `Polling.Rest.step`: a turn takes its call from the front.
- `polling_matches_reference`: every setup by polling that has ended has the outcome of the reference.
-/

namespace Uplink.Readiness

variable {cfg : Config}

/-- A question to the outside with the reply that it got. -/
structure Call where
  asked : Request
  reply : asked.Reply

/-- Whether a request asks for an answer and not only for time. -/
def Request.isCall : Request → Bool
  | pause _ | watch _ | nothing => false
  | _ => true

/-- The call of a turn, if there is one. -/
def calls : Notebook cfg Call := fun t _ reply =>
  if (t.request cfg).isCall then some ⟨t.request cfg, reply⟩ else none

/-- What is there to see when a setup by polling is over. -/
structure Outcome where
  verdict : Verdict
  status : Status
  /-- Whether the address was observed. -/
  observed : Bool
  fault : Option Fault
  deriving DecidableEq, Repr

namespace Outcome

/-- The network is ready. -/
def ready : Outcome := ⟨.answered true, .ready, true, none⟩

/-- Among so many interfaces there is none of the target kind. -/
def noInterface (target : InterfaceKind) (found : Nat) : Outcome :=
  ⟨.refused (.noInterface target found), .noInterface, false, none⟩

/-- The token was cancelled; only a setup that waited for the clock has seen the address. -/
def expired : Awaited → Outcome
  | .address => ⟨.answered false, .expiredForAddress, false, none⟩
  | .clock => ⟨.answered false, .expiredForClock, true, none⟩

/-- A call failed. -/
def failed (f : Fault) : Outcome := ⟨.answered false, .faulted, false, some f⟩

end Outcome

/-- Whether a setup waits for an address: for any but zero, or for that of its static
configuration. -/
def Setup.wants (s : Setup) (a : Address) : Bool :=
  a.value != 0 && s.desired.all fun desired => desired == a

/-- Whether the first interface of the target kind has an address that is waited for. -/
def Setup.findsIn (cfg : Config) (s : Setup) (interfaces : List Interface) : Bool :=
  (interfaces.find? fun i => i.kind == cfg.target).any fun i => s.wants i.ipv4

namespace Polling

/-- Rounds of waiting for the clock: the token, then the year. -/
def clockRounds (cfg : Config) : List Call → Option Outcome
  | ⟨.readToken, true⟩ :: calls => whenDone (.expired .clock) calls
  | ⟨.readToken, false⟩ :: ⟨.readClock, year⟩ :: calls =>
    if cfg.minYear ≤ year then whenDone .ready calls else clockRounds cfg calls
  | _ => none

/-- What comes after the address. -/
def afterAddress (cfg : Config) (s : Setup) (calls : List Call) : Option Outcome :=
  if s.requiresClock then clockRounds cfg calls else whenDone .ready calls

/-- Rounds of waiting for the address: the token, then the interfaces. -/
def addressRounds (cfg : Config) (s : Setup) : List Call → Option Outcome
  | ⟨.readToken, true⟩ :: calls => whenDone (.expired .address) calls
  | ⟨.readToken, false⟩ :: ⟨.listInterfaces, .error cause⟩ :: calls =>
    whenDone (.failed (.looking cause)) calls
  | ⟨.readToken, false⟩ :: ⟨.listInterfaces, .ok interfaces⟩ :: calls =>
    if s.findsIn cfg interfaces then afterAddress cfg s calls else addressRounds cfg s calls
  | _ => none

/-- One command, with the fault of its failure and with what comes after its success. -/
def command (c : NetworkCommand) (fault : ErrorChain → Fault)
    (success : List Call → Option Outcome) : List Call → Option Outcome
  | ⟨.command d, reply⟩ :: calls =>
    if d = c then
      match reply with
      | .error cause => whenDone (.failed (fault cause)) calls
      | .ok () => success calls
    else none
  | _ => none

/-- A command that fails ends the setup. -/
theorem command_error (c : NetworkCommand) (fault : ErrorChain → Fault)
    (success : List Call → Option Outcome) (cause : ErrorChain) (calls : List Call) :
    command c fault success (⟨.command c, .error cause⟩ :: calls) =
      whenDone (.failed (fault cause)) calls := if_pos rfl

/-- A command that succeeds leads on. -/
theorem command_ok (c : NetworkCommand) (fault : ErrorChain → Fault)
    (success : List Call → Option Outcome) (calls : List Call) :
    command c fault success (⟨.command c, .ok ()⟩ :: calls) = success calls := if_pos rfl

/-- The command for the name servers, and then the rounds. -/
def afterAssignment (cfg : Config) (s : Setup) (interface : String) : List Call → Option Outcome :=
  command (Caller.serversCommand s interface) (.servers interface) (addressRounds cfg s)

/-- The outcome of a setup that made these calls. -/
def reference (cfg : Config) (s : Setup) : List Call → Option Outcome
  | ⟨.listInterfaces, .error cause⟩ :: calls => whenDone (.failed (.listing cause)) calls
  | ⟨.listInterfaces, .ok interfaces⟩ :: calls =>
    match interfaces.find? fun i => i.kind == cfg.target with
    | none => whenDone (.noInterface cfg.target interfaces.length) calls
    | some i =>
      command (Caller.addressCommand s i.name) (Caller.addressFault s i.name)
        (afterAssignment cfg s i.name) calls
  | _ => none

end Polling

/-! ## The rest of the reference -/

/-- The outcome that an ending of a setup by polling leads to. -/
def Ending.outcome (target : InterfaceKind) : Ending → Outcome
  | ready => .ready
  | noInterface found => .noInterface target found
  | expired awaited => .expired awaited
  | failed f => .failed f

/-- What the caller gets back and what the cells say then are the outcome of the ending. -/
theorem Ending.outcome_eq (target : InterfaceKind) (e : Ending) :
    e.outcome target = ⟨e.verdict target .polling, e.status, e.observed.isSet, e.fault?⟩ := by
  rcases e with _ | _ | (_ | _) | _ <;> rfl

/-- A probe accepts what its setup waits for. -/
theorem Setup.accepts_probe (cfg : Config) (s : Setup) (a : Address) :
    (Caller.probe cfg s).accepts a = s.wants a := by
  simp only [Caller.probe, Probe.accepts, wants, Address.isAny, bne]
  cases s.desired <;> rfl

/-- A probe is satisfied by what its setup looks for. -/
theorem Setup.satisfiedBy_probe (cfg : Config) (s : Setup) (interfaces : List Interface) :
    (Caller.probe cfg s).satisfiedBy interfaces = s.findsIn cfg interfaces := by
  simp only [Probe.satisfiedBy, findsIn]
  cases first : interfaces.find? fun i => i.kind == cfg.target with
  | none =>
    rw [show Probe.pick? (Caller.probe cfg s).target interfaces = none from first]
    rfl
  | some i =>
    rw [show Probe.pick? (Caller.probe cfg s).target interfaces = some i from first]
    exact accepts_probe cfg s i.ipv4

namespace Polling

variable {s : Setup}

/-- What is left of the reference when a caller that polls has come to a place. -/
inductive Rest (cfg : Config) (s : Setup) : Caller → (List Call → Option Outcome) → Prop
  | start : Rest cfg s (.start s .polling) (reference cfg s)
  | find : Rest cfg s (.find s .polling) (reference cfg s)
  | assign (interface : String) : Rest cfg s (.assign s .polling interface)
      (command (Caller.addressCommand s interface) (Caller.addressFault s interface)
        (afterAssignment cfg s interface))
  | setServers (interface : String) :
      Rest cfg s (.setServers s .polling interface) (afterAssignment cfg s interface)
  | keepConfiguration : Rest cfg s (.keepConfiguration s .polling) (addressRounds cfg s)
  | settle : Rest cfg s (.settle s .polling) (addressRounds cfg s)
  | checkToken : Rest cfg s (.checkToken s) (addressRounds cfg s)
  | poll : Rest cfg s (.poll s) fun calls => addressRounds cfg s (⟨.readToken, false⟩ :: calls)
  | pollPause : Rest cfg s (.pollPause s) (addressRounds cfg s)
  | observe : Rest cfg s (.observe s) (afterAddress cfg s)
  | checkTokenForClock : Rest cfg s (.checkTokenForClock s) (clockRounds cfg)
  | readClock : Rest cfg s (.readClock s) fun calls => clockRounds cfg (⟨.readToken, false⟩ :: calls)
  | clockPause : Rest cfg s (.clockPause s) (clockRounds cfg)
  | conclude (e : Ending) (stage : Ending.Stage) :
      Rest cfg s (.conclude s e stage) (whenDone (e.outcome cfg.target))

/-- A turn takes its call from the front of the rest, unless it is the last one. -/
theorem Rest.step {t : Caller} {rest : List Call → Option Outcome} (left : Rest cfg s t rest)
    (unfinished : ∀ e, t ≠ .conclude s e .settle) (c : Cells) (reply : (t.request cfg).Reply) :
    ∃ rest', Rest cfg s (t.step cfg c reply).next rest' ∧
      ∀ more, rest ((calls (.caller t) c reply).toList ++ more) = rest' more := by
  cases left with
  | start => exact ⟨_, .find, fun _ => rfl⟩
  | find =>
    cases reply with
    | error cause => exact ⟨_, .conclude (.failed (.listing cause)) _, fun _ => rfl⟩
    | ok interfaces =>
      simp only [Caller.step, Caller.stepFind, Probe.pick?]
      cases first : interfaces.find? fun i => i.kind == cfg.target with
      | none =>
        refine ⟨_, .conclude (.noInterface interfaces.length) _, fun more => ?_⟩
        simp only [calls, Request.isCall, if_true, Option.toList_some, List.singleton_append,
          reference, first]
        rfl
      | some i =>
        refine ⟨_, .assign i.name, fun more => ?_⟩
        simp only [calls, Request.isCall, if_true, Option.toList_some, List.singleton_append,
          reference, first]
  | assign interface =>
    cases reply with
    | error cause =>
      exact ⟨_, .conclude (.failed (Caller.addressFault s interface cause)) _,
        command_error _ _ _ cause⟩
    | ok _ => exact ⟨_, .setServers interface, command_ok _ _ _⟩
  | setServers interface =>
    cases reply with
    | error cause =>
      exact ⟨_, .conclude (.failed (.servers interface cause)) _, command_error _ _ _ cause⟩
    | ok _ => exact ⟨_, .keepConfiguration, command_ok _ _ _⟩
  | keepConfiguration => exact ⟨_, .settle, fun _ => rfl⟩
  | settle => exact ⟨_, .checkToken, fun _ => rfl⟩
  | checkToken =>
    cases reply with
    | true => exact ⟨_, .conclude (.expired .address) _, fun _ => rfl⟩
    | false => exact ⟨_, .poll, fun _ => rfl⟩
  | poll =>
    cases reply with
    | error cause => exact ⟨_, .conclude (.failed (.looking cause)) _, fun _ => rfl⟩
    | ok interfaces =>
      simp only [Caller.step, Caller.stepPoll, Setup.satisfiedBy_probe]
      split
      · rename_i found
        exact ⟨_, .observe, fun _ => if_pos found⟩
      · rename_i missing
        exact ⟨_, .pollPause, fun _ => if_neg missing⟩
  | pollPause => exact ⟨_, .checkToken, fun _ => rfl⟩
  | observe =>
    simp only [Caller.step, Caller.stepObserve]
    split
    · rename_i required
      exact ⟨_, .checkTokenForClock, fun _ => if_pos required⟩
    · rename_i spared
      exact ⟨_, .conclude .ready _, fun _ => if_neg spared⟩
  | checkTokenForClock =>
    cases reply with
    | true => exact ⟨_, .conclude (.expired .clock) _, fun _ => rfl⟩
    | false => exact ⟨_, .readClock, fun _ => rfl⟩
  | readClock =>
    simp only [Caller.step, Caller.stepClock]
    split
    · rename_i late
      exact ⟨_, .conclude .ready _, fun _ => if_pos late⟩
    · rename_i early
      exact ⟨_, .clockPause, fun _ => if_neg early⟩
  | clockPause => exact ⟨_, .checkTokenForClock, fun _ => rfl⟩
  | conclude e stage =>
    cases stage with
    | release => cases e <;> exact ⟨_, .conclude _ _, fun _ => rfl⟩
    | keepFault => exact ⟨_, .conclude e _, fun _ => rfl⟩
    | publish => exact ⟨_, .conclude e _, fun _ => rfl⟩
    | settle => exact (unfinished e rfl).elim

/-- A caller that polls is on its way, and the rest of the reference is for the calls to come; or it
is over, and caller and cells show the outcome. -/
inductive Agrees (cfg : Config) (s : Setup) (c : Cells) : Thread → List Call → Prop
  | goesOn {t : Caller} {rest : List Call → Option Outcome} {made : List Call}
      (left : Rest cfg s t rest) (agree : ∀ more, reference cfg s (made ++ more) = rest more) :
      Agrees cfg s c (.caller t) made
  | done {v : Verdict} {made : List Call}
      (agree : reference cfg s made = some ⟨v, c.status, c.addressObserved.isSet, c.fault⟩) :
      Agrees cfg s c (.caller (.returned v)) made

/-- Nobody is started by a caller that polls. -/
theorem Agrees.alone {c : Cells} {t : Thread} {made : List Call} (agrees : Agrees cfg s c t made)
    (reply : (t.request cfg).Reply) : t.started? cfg reply = none := by
  cases agrees with
  | goesOn left => cases left <;> rfl
  | done => rfl

/-- What each turn of a caller that polls keeps. -/
theorem Agrees.step (polling : s.mode = .polling) {c : Cells} {t : Thread} {made : List Call}
    (agrees : Agrees cfg s c t made) (holds : t.Holds c ∨ t.isIdle = true)
    (reply : (t.request cfg).Reply) :
    Agrees cfg s (t.step cfg c reply).cells (t.step cfg c reply).next
      (made ++ (calls t c reply).toList) := by
  cases agrees with
  | done agree =>
    refine .done ?_
    rw [show (calls (.caller (.returned _)) c reply).toList = [] from rfl, List.append_nil]
    exact agree
  | @goesOn t rest made left agree =>
    by_cases finished : ∃ e, t = .conclude s e .settle
    · obtain ⟨e, rfl⟩ := finished
      cases left
      have holds : (Thread.caller (.conclude s e .settle)).Holds c :=
        holds.resolve_right (by simp [Thread.isIdle, Caller.outlook?])
      -- The last write settles the signal only, so the cells say already how the setup ended.
      have shown : e.outlook .settle = c.outlook := Option.some.inj holds.shown
      obtain ⟨status, observed, fault⟩ := Outlook.mk.inj shown
      have outcome := agree []
      rw [whenDone_nil, e.outcome_eq, ← polling, status, observed, fault] at outcome
      exact .done outcome
    · obtain ⟨rest', left', front⟩ := left.step (fun e last => finished ⟨e, last⟩) c reply
      refine .goesOn left' fun more => ?_
      rw [List.append_assoc, agree, front]

end Polling

/-- Every setup by polling that has ended without a reset has the outcome that goes with its calls,
whatever the network, the clock and the token have replied and whatever other threads did. -/
theorem polling_matches_reference {setup : Setup} {m s : System} {i : Nat} {v : Verdict}
    {es : List (Event cfg)} (unclaimed : m.Unclaimed) (polling : setup.mode = .polling)
    (present : m.threads[i]? = some (.caller (.claim setup))) (calm : Calm es)
    (run : m.run? (.turn i (.caller (.claim setup)) () :: es) = some s)
    (ended : s.threads[i]? = some (.caller (.returned v))) :
    Polling.reference cfg setup
        (m.noted i calls (.turn i (.caller (.claim setup)) () :: es)) =
      some ⟨v, s.cells.status, s.cells.addressObserved.isSet, s.cells.fault⟩ := by
  obtain ⟨next, after, rest⟩ := runFrom?_cons_eq_some.mp run
  have first : m.noted i calls (.turn i (.caller (.claim setup)) () :: es) =
      next.noted i calls es := by
    rw [System.noted, notedFrom_cons after, System.note_turn_self]
    rfl
  obtain ⟨-, rfl⟩ := System.after?_turn_eq_some.mp after
  have phase : Phase (m.advance cfg i (.caller (.claim setup)) ()) :=
    .turn_of_claim present unclaimed.untouched unclaimed.idle ()
  have there : (m.advance cfg i (.caller (.claim setup)) ()).threads[i]? =
      some (.caller (.start setup .polling)) := by
    rw [System.getElem?_advance_self present]
    simp [Thread.step, Caller.step, Caller.stepClaim, unclaimed.untouched.free, polling]
  have begins (c : Cells) : Polling.Agrees cfg setup c (.caller (.start setup .polling)) [] :=
    .goesOn .start fun _ => rfl
  obtain ⟨t, found, agrees⟩ := phase.follow (K := Polling.Agrees cfg setup)
    Polling.Agrees.alone (fun reply agrees holds => agrees.step polling holds reply)
    there rfl (begins _) calm rest
  cases ended.symm.trans found
  cases agrees with
  | goesOn left => cases left
  | done agree =>
    rw [first]
    exact agree

/-- A setup by polling with a static address and with a clock. -/
def fixedAndTimed : Setup := ⟨.polling, some ⟨.loopback, .broadcast, .any, []⟩, true⟩

/-- Such a setup in which address and clock take two rounds each, and a second caller comes in. -/
def fixedAndTimedRun : List (Event {}) :=
  [.turn 0 (.caller (.claim fixedAndTimed)) (),
    .turn 0 (.caller (.start fixedAndTimed .polling)) (),
    .turn 0 (.caller (.find fixedAndTimed .polling)) (.ok [⟨"eth0", .ethernet, .any, true⟩]),
    .turn 0 (.caller (.assign fixedAndTimed .polling "eth0")) (.ok ()),
    .turn 0 (.caller (.setServers fixedAndTimed .polling "eth0")) (.ok ()),
    .enter (.call polled),
    .turn 0 (.caller (.keepConfiguration fixedAndTimed .polling)) (),
    .turn 0 (.caller (.settle fixedAndTimed .polling)) (),
    .turn 0 (.caller (.checkToken fixedAndTimed)) false,
    .turn 0 (.caller (.poll fixedAndTimed)) (.ok [⟨"eth0", .ethernet, .broadcast, true⟩]),
    .turn 1 (.caller (.claim polled)) (),
    .turn 0 (.caller (.pollPause fixedAndTimed)) (),
    .turn 0 (.caller (.checkToken fixedAndTimed)) false,
    .turn 0 (.caller (.poll fixedAndTimed)) (.ok [⟨"eth0", .ethernet, .loopback, false⟩]),
    .turn 0 (.caller (.observe fixedAndTimed)) (),
    .turn 0 (.caller (.checkTokenForClock fixedAndTimed)) false,
    .turn 0 (.caller (.readClock fixedAndTimed)) 1970,
    .turn 0 (.caller (.clockPause fixedAndTimed)) (),
    .turn 0 (.caller (.checkTokenForClock fixedAndTimed)) false,
    .turn 0 (.caller (.readClock fixedAndTimed)) 2024,
    .turn 0 (.caller (.conclude fixedAndTimed .ready .publish)) (),
    .turn 0 (.caller (.conclude fixedAndTimed .ready .settle)) ()]

/-- The reference reads the outcome of that setup off its calls. -/
theorem polling_matches_reference_fixed : ∃ s : System,
    System.run? { threads := [.caller (.claim fixedAndTimed)] } fixedAndTimedRun = some s ∧
      s.cells.status = .ready ∧
      Polling.reference {} fixedAndTimed
          [⟨.listInterfaces, .ok [⟨"eth0", .ethernet, .any, true⟩]⟩,
            ⟨.command (.staticAddress "eth0" .loopback .broadcast .any), .ok ()⟩,
            ⟨.command (.automaticServers "eth0"), .ok ()⟩,
            ⟨.readToken, false⟩, ⟨.listInterfaces, .ok [⟨"eth0", .ethernet, .broadcast, true⟩]⟩,
            ⟨.readToken, false⟩, ⟨.listInterfaces, .ok [⟨"eth0", .ethernet, .loopback, false⟩]⟩,
            ⟨.readToken, false⟩, ⟨.readClock, (1970 : Int)⟩,
            ⟨.readToken, false⟩, ⟨.readClock, (2024 : Int)⟩] =
        some ⟨.answered true, .ready, true, none⟩ := by
  have unclaimed : System.Unclaimed { threads := [.caller (.claim fixedAndTimed)] } :=
    ⟨.fresh, by simp [Thread.isIdle, Caller.outlook?]⟩
  have calm : Calm fixedAndTimedRun := by decide
  have agrees := @polling_matches_reference {} fixedAndTimed _ _ 0 (.answered true)
    fixedAndTimedRun.tail unclaimed rfl rfl calm.tail rfl rfl
  exact ⟨_, rfl, rfl, agrees⟩

end Uplink.Readiness
