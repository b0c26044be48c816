import Uplink.Proofs.Readiness.Dealings
import Uplink.Proofs.Readiness.Lease

/-!
# The order of calls

A setup is carried out by two threads at most, one after the other, so its dealings with the outside
make one list. Which of them have taken place can be told from the place of the thread that carries
it out, and the next turn adds at most one. So the order of all calls follows from one statement for
each place, in which no other thread occurs.

Giving the subscription back after a failure is the only thing that is done outside the plan. It is
the first write of an ending, and what it gives back is what the place promised to be kept.

## Main definitions

- `dealings`: notes what a turn asks, or gives back.
- `Caller.Follows`, `Worker.Follows`: what has been dealt when a thread stands at its place.

## Main results

- `Thread.follows_step`: each turn leads to the next place with the next dealing.
- `calls_in_order`: the dealings of every setup are in order.
-/

namespace Uplink.Readiness

variable {cfg : Config} {c : Cells}

/-- Whether a request is no dealing with the network or the clock, nor with a listener or a new
thread: pauses, and looks at one's own token and signal. -/
def Request.isSilent : Request → Bool
  | readToken | pause _ | watch _ | nothing => true
  | _ => false

/-- Notes what a turn asks, with the reply, or which subscription it gives back. -/
def dealings : Notebook cfg Dealing := fun t c reply =>
  if (t.request cfg).isSilent then (t.step cfg c reply).unsubscribed.map .gaveBack
  else some (.asked (t.request cfg) reply)

/-- The way to wait that an approach is for. -/
def Approach.mode : Approach → Mode
  | events _ => .events
  | polling => .polling

/-- The way to wait that a route is for. -/
def Route.mode : Route → Mode
  | events .. => .events
  | polling => .polling

/-! ## What has been dealt -/

namespace Setup

variable (target : InterfaceKind) (s : Setup) (lease? : Option SubscriptionId) (ds : List Dealing)

/-- The interface is configured. -/
def Configured : Prop := ∃ interface, s.Made target interface lease? ds (s.configuring interface)

/-- It is configured, and a worker has looked at it. -/
def Looked : Prop :=
  ∃ interface, s.Made target interface lease? ds (s.configuring interface ++ [.list])

/-- It is configured, and a polling caller has looked at it any number of times. -/
def Polled : Prop :=
  ∃ interface id looks, s.Made target interface none ds (s.plan interface id looks 0)

/-- The address was seen, and the clock was read any number of times. -/
def Arrived : Prop :=
  s.Seen target ds ∧
    ∃ interface id looks n, s.Made target interface none ds (s.plan interface id looks n)

/-- The setup is over but for the writes of its ending. -/
def Stopped (c : Cells) (stage : Ending.Stage) : Prop :=
  s.Conforms target ds ∧
    (stage = .release → ∀ id ∈ c.subscription, s.Conforms target (ds ++ [.gaveBack id]))

end Setup

/-- A job is that of a setup with events. -/
structure Job.For (j : Job) (s : Setup) : Prop where
  mode : s.mode = .events
  desired : j.desired = s.desired
  requiresClock : j.requiresClock = s.requiresClock

/-- A worker waits for what its setup waits for. -/
theorem Job.For.probe_eq {j : Job} {s : Setup} (job : j.For s) :
    Worker.probe cfg j = ⟨cfg.target, s.desired⟩ := by
  rw [Worker.probe, job.desired]

/-- What has been dealt when a caller stands at its place. -/
def Caller.Follows (target : InterfaceKind) (s : Setup) (c : Cells) (ds : List Dealing) :
    Caller → Prop
  | claim _ => False
  | readGeneration s' => s' = s ∧ s.mode = .events ∧ ds = []
  | start s' a | find s' a => s' = s ∧ s.mode = a.mode ∧ ds = []
  | subscribe s' _ interface =>
    s' = s ∧ s.mode = .events ∧ s.Made target interface none ds [.list]
  | keepSubscription s' _ interface id =>
    s' = s ∧ s.mode = .events ∧ s.Made target interface (some id) ds s.opening
  | assign s' r interface =>
    s' = s ∧ s.mode = r.mode ∧ s.Made target interface r.channel? ds s.opening
  | setServers s' r interface =>
    s' = s ∧ s.mode = r.mode ∧ s.Made target interface r.channel? ds
      (s.opening ++ [.command (addressCommand s interface)])
  | keepConfiguration s' r | settle s' r =>
    s' = s ∧ s.mode = r.mode ∧ s.Configured target r.channel? ds
  | startWorker s' _ id => s' = s ∧ s.mode = .events ∧ s.Configured target (some id) ds
  | checkToken s' | poll s' | pollPause s' => s' = s ∧ s.mode = .polling ∧ s.Polled target ds
  | observe s' => s' = s ∧ s.Arrived target ds
  | checkTokenForClock s' | readClock s' | clockPause s' =>
    s' = s ∧ s.requiresClock = true ∧ s.Arrived target ds
  | conclude _ _ stage => s.Stopped target ds c stage
  | returned _ => s.Conforms target ds

/-- What has been dealt when a worker stands at its place. -/
def Worker.Follows (target : InterfaceKind) (s : Setup) (c : Cells) (ds : List Dealing) :
    Worker → Prop
  | look j => j.For s ∧ s.Configured target (some j.channel) ds
  | receive j | checkTimeout j | checkClosed j => j.For s ∧ s.Looked target (some j.channel) ds
  | checkFault j _ => s.Conforms target ds ∧ s.Conforms target (ds ++ [.gaveBack j.channel])
  | checkAddress j | observe j | release j =>
    j.For s ∧ s.Looked target (some j.channel) ds ∧ s.Seen target ds
  | checkClock j | readClock j | clockPause j =>
    j.For s ∧ s.requiresClock = true ∧ s.Arrived target ds
  | checkReady _ => s.Conforms target ds
  | conclude _ _ stage => s.Stopped target ds c stage
  | ended => s.Conforms target ds

/-- What has been dealt when the thread that carries a setup out stands at its place. -/
def Thread.Follows (target : InterfaceKind) (s : Setup) (c : Cells) (ds : List Dealing) :
    Thread → Prop
  | caller t => t.Follows target s c ds
  | worker w => w.Follows target s c ds
  | _ => False

/-! ## Stopping at a place -/

namespace Setup

variable {target : InterfaceKind} {s : Setup} {interface : String} {id : SubscriptionId}
  {lease? : Option SubscriptionId} {ds : List Dealing} {es : List Errand} {d : Dealing}

theorem Configured.conforms (configured : s.Configured target lease? ds) : s.Conforms target ds := by
  obtain ⟨interface, made⟩ := configured
  exact made.conforms (s.configuring_planned interface ⟨0⟩ 0 0)

theorem Looked.conforms (looked : s.Looked target lease? ds) (events : s.mode = .events) :
    s.Conforms target ds := by
  obtain ⟨interface, made⟩ := looked
  exact made.conforms (looked_planned events interface ⟨0⟩ 0)

theorem Polled.conforms (polled : s.Polled target ds) : s.Conforms target ds := by
  obtain ⟨interface, id, looks, made⟩ := polled
  exact made.conforms (List.prefix_refl _)

theorem Arrived.conforms (arrived : s.Arrived target ds) : s.Conforms target ds := by
  obtain ⟨-, interface, id, looks, n, made⟩ := arrived
  exact made.conforms (List.prefix_refl _)

/-- Where nothing is kept, stopping is all there is. -/
theorem Conforms.stopped (conforms : s.Conforms target ds) (stage : Ending.Stage)
    (bare : c.subscription = none) : s.Stopped target ds c stage := by
  refine ⟨conforms, fun _ id kept => ?_⟩
  rw [bare] at kept
  cases kept

/-- A call fails before the configuration is complete. -/
theorem Made.stopped (made : s.Made target interface lease? ds es) (fails : d.fails = true)
    (planned : es ++ d.errand?.toList <+: s.configuring interface)
    (kept : c.subscription = lease?) (stage : Ending.Stage) :
    s.Stopped target (ds ++ [d]) c stage := by
  have owed (id : SubscriptionId) : .unsubscribe id ∉ es := fun mem =>
    s.unsubscribe_notMem_configuring interface id (planned.subset (List.mem_append_left _ mem))
  obtain ⟨conforms, back⟩ := made.stops fails (fun id => prefix_plan planned id 0 0) owed
  exact ⟨conforms, fun _ id here => back id (kept ▸ here)⟩

/-- A look of a worker at the interfaces. -/
theorem Configured.concat (configured : s.Configured target lease? ds) (interfaces : List Interface) :
    s.Looked target lease? (ds ++ [.asked .listInterfaces (.ok interfaces)]) := by
  obtain ⟨interface, made⟩ := configured
  exact ⟨interface, made.concat rfl nofun nofun⟩

/-- What a worker receives is no call. -/
theorem Looked.aside (looked : s.Looked target lease? ds) (sound : d.fails = false)
    (silent : d.errand? = none) : s.Looked target lease? (ds ++ [d]) := by
  obtain ⟨interface, made⟩ := looked
  exact ⟨interface, made.aside sound silent⟩

/-- A change that shows the address. -/
theorem Looked.seen_of_shows (looked : s.Looked target lease? ds)
    (shown : d.shows ⟨target, s.desired⟩ = true) : s.Seen target (ds ++ [d]) := by
  obtain ⟨interface, made⟩ := looked
  exact made.seen_of_shows (List.prefix_append _ _) shown

/-- A worker gives its subscription back. -/
theorem Looked.release (looked : s.Looked target (some id) ds) (events : s.mode = .events) :
    ∃ interface, s.Made target interface none (ds ++ [.gaveBack id]) (s.plan interface id 0 0) := by
  obtain ⟨interface, made⟩ := looked
  have longer := made.concat (d := .gaveBack id) rfl (by rintro other ⟨⟩; rfl) nofun
  have planned : s.configuring interface ++ [.list] ++ [.unsubscribe id] =
      s.plan interface id 0 0 := by
    simp [plan, search, events, readings]
  exact ⟨interface, planned ▸ longer.release⟩

/-- Another look. -/
theorem Polled.concat (polled : s.Polled target ds) (polling : s.mode = .polling)
    (interfaces : List Interface) :
    s.Polled target (ds ++ [.asked .listInterfaces (.ok interfaces)]) := by
  obtain ⟨interface, id, looks, made⟩ := polled
  refine ⟨interface, id, looks + 1, ?_⟩
  rw [← plan_concat_look polling]
  exact made.concat rfl nofun nofun

/-- The look that shows the address. -/
theorem Polled.arrive (polled : s.Polled target ds) (polling : s.mode = .polling)
    {interfaces : List Interface} (shown : Probe.satisfiedBy ⟨target, s.desired⟩ interfaces = true) :
    s.Arrived target (ds ++ [.asked .listInterfaces (.ok interfaces)]) := by
  obtain ⟨interface, id, looks, longer⟩ := polled.concat polling interfaces
  obtain ⟨interface', id', looks', made⟩ := polled
  exact ⟨made.seen_of_shows (s.configuring_planned interface' id' looks' 0) shown, interface, id, looks, 0, longer⟩

end Setup

/-! ## One turn -/

section

variable {s : Setup} {ds : List Dealing}

/-- At every place the dealings are in order. -/
theorem Thread.Follows.conforms {target : InterfaceKind} {t : Thread}
    (follows : t.Follows target s c ds) : s.Conforms target ds := by
  cases t with
  | caller t =>
    cases t with
    | claim s' => exact follows.elim
    | readGeneration s' =>
      obtain ⟨-, -, rfl⟩ := follows
      exact s.conforms_nil target
    | start s' a | find s' a =>
      obtain ⟨-, -, rfl⟩ := follows
      exact s.conforms_nil target
    | subscribe s' generation interface =>
      obtain ⟨-, mode, made⟩ := follows
      have first : [.list] <+: s.configuring interface := by
        rw [Setup.configuring, Setup.opening, mode]
        exact List.prefix_append _ _
      exact made.conforms (Setup.prefix_plan first ⟨0⟩ 0 0)
    | keepSubscription s' generation interface id =>
      obtain ⟨-, -, made⟩ := follows
      exact made.conforms (Setup.prefix_plan (List.prefix_append _ _) ⟨0⟩ 0 0)
    | assign s' r interface =>
      obtain ⟨-, -, made⟩ := follows
      exact made.conforms (Setup.prefix_plan (List.prefix_append _ _) ⟨0⟩ 0 0)
    | setServers s' r interface =>
      obtain ⟨-, -, made⟩ := follows
      have first : s.opening ++ [.command (Caller.addressCommand s interface)] <+:
          s.configuring interface := by
        rw [s.configuring_eq]
        exact List.prefix_append _ _
      exact made.conforms (Setup.prefix_plan first ⟨0⟩ 0 0)
    | keepConfiguration s' r | settle s' r | startWorker s' generation id =>
      obtain ⟨-, -, configured⟩ := follows
      exact configured.conforms
    | checkToken s' | poll s' | pollPause s' =>
      obtain ⟨-, -, polled⟩ := follows
      exact polled.conforms
    | observe s' =>
      obtain ⟨-, arrived⟩ := follows
      exact arrived.conforms
    | checkTokenForClock s' | readClock s' | clockPause s' =>
      obtain ⟨-, -, arrived⟩ := follows
      exact arrived.conforms
    | conclude s' e stage => exact follows.1
    | returned v => exact follows
  | worker w =>
    cases w with
    | look j =>
      obtain ⟨-, configured⟩ := follows
      exact configured.conforms
    | receive j | checkTimeout j | checkClosed j =>
      obtain ⟨job, looked⟩ := follows
      exact looked.conforms job.mode
    | checkFault j f => exact follows.1
    | checkAddress j | observe j | release j =>
      obtain ⟨job, looked, -⟩ := follows
      exact looked.conforms job.mode
    | checkClock j | readClock j | clockPause j =>
      obtain ⟨-, -, arrived⟩ := follows
      exact arrived.conforms
    | checkReady j => exact follows
    | conclude j e stage => exact follows.1
    | ended => exact follows
  | reset t => exact follows.elim
  | watcher t => exact follows.elim

/-- A thread that is idle asks the repository for nothing, and gives nothing back. -/
theorem Thread.isSilent_of_isIdle {t : Thread} (idle : t.isIdle = true) :
    (t.request cfg).isSilent = true ∧ t.releases = false := by
  rcases t with t | t | t | t
  · cases t with
    | claim | returned => exact ⟨rfl, rfl⟩
    | _ => cases idle
  · cases t with
    | ended => exact ⟨rfl, rfl⟩
    | _ => cases idle
  · cases t with
    | done => exact ⟨rfl, rfl⟩
    | _ => cases idle
  · cases t <;> exact ⟨rfl, rfl⟩

end

end Uplink.Readiness
