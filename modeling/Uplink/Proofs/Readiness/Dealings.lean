import Mathlib.Data.List.Basic
import Uplink.Readiness.Caller

/-!
# The dealings of a setup

What a setup asks of the network and the clock, and what it is told, makes one list. This module
says which lists are in order, without a word about threads: the calls are the first of those that
were planned, the list is cut at the first call that fails, and the facts that a call rests on stand
before it.

A list is built up from the left, one dealing at a time. `Setup.Made` says of a list in which nothing
has failed yet that it is in order so far, and which of the planned calls have been made. From it
one gets to a list in order by stopping, with or without a last call that fails.

## Main definitions

- `Dealing`: one thing asked, with its reply, or a subscription given back.
- `Errand`: a dealing that is a call to the network or to the clock, without its reply.
- `Setup.plan`: the calls that a setup plans.
- `Setup.InOrder`: the dealings of a setup are in order.
- `Setup.Conforms`: they are, with at most one subscription given back after a failure.

## Main results

- `Setup.Made.concat`: how a list in which nothing has failed is built up.
- `Setup.Made.conforms`, `Setup.Made.stops`: what stopping leads to.
-/

namespace Uplink.Readiness

/-- One dealing with the outside: something was asked and replied to, or a subscription was given
back. -/
inductive Dealing where
  | asked (q : Request) (reply : q.Reply)
  | gaveBack (id : SubscriptionId)

/-- A call to the network or to the clock. -/
inductive Errand where
  | list
  | subscribe
  | command (c : NetworkCommand)
  | unsubscribe (id : SubscriptionId)
  | clock
  deriving DecidableEq, Repr

namespace Dealing

/-- The call that a dealing is, if it is one to the network or to the clock. -/
def errand? : Dealing → Option Errand
  | asked .listInterfaces _ => some .list
  | asked .subscribe _ => some .subscribe
  | asked (.command c) _ => some (.command c)
  | asked .readClock _ => some .clock
  | asked .. => none
  | gaveBack id => some (.unsubscribe id)

/-- Whether a call failed. The start of a worker is a call of this kind. -/
def fails : Dealing → Bool
  | asked .listInterfaces (.error _) | asked .subscribe (.error _) | asked (.command _) (.error _)
  | asked (.startWorker _) (.error _) => true
  | _ => false

/-- Whether a dealing shows an address that ends the wait. -/
def shows (p : Probe) : Dealing → Bool
  | asked .listInterfaces (.ok interfaces) => p.satisfiedBy interfaces
  | asked (.receive ..) (.change c) => p.isMatch c
  | _ => false

end Dealing

namespace Setup

/-! ## What is planned -/

/-- The two commands that configure an interface. -/
def commands (s : Setup) (interface : String) : List NetworkCommand :=
  match s.configuration with
  | none => [.dhcp interface, .automaticServers interface]
  | some c =>
    [.staticAddress interface c.address c.mask c.gateway,
      if c.servers = [] then .automaticServers interface
      else .staticServers interface c.servers]

/-- The calls before the commands: one look at the interfaces and, with events, one subscription. -/
def opening (s : Setup) : List Errand :=
  match s.mode with
  | .events => [.list, .subscribe]
  | .polling => [.list]

/-- The calls of the wait for the address: with events one look, after which the subscription is
given back, and else any number of looks. -/
def search (s : Setup) (id : SubscriptionId) (looks : Nat) : List Errand :=
  match s.mode with
  | .events => [.list, .unsubscribe id]
  | .polling => .replicate looks .list

/-- The calls of the wait for the wall clock, if there is one. -/
def readings (s : Setup) (n : Nat) : List Errand :=
  if s.requiresClock then .replicate n .clock else []

/-- The calls up to the end of the configuration. -/
def configuring (s : Setup) (interface : String) : List Errand :=
  s.opening ++ (s.commands interface).map .command

/-- The calls that a setup plans. -/
def plan (s : Setup) (interface : String) (id : SubscriptionId) (looks n : Nat) : List Errand :=
  s.configuring interface ++ s.search id looks ++ s.readings n

/-- These are the commands that callers ask for. -/
theorem commands_eq (s : Setup) (interface : String) :
    s.commands interface =
      [Caller.addressCommand s interface, Caller.serversCommand s interface] := by
  simp only [commands, Caller.addressCommand, Caller.serversCommand]
  cases s.configuration with
  | none => rfl
  | some c => simp only [List.isEmpty_iff]

theorem configuring_eq (s : Setup) (interface : String) :
    s.configuring interface =
      s.opening ++ [.command (Caller.addressCommand s interface)] ++
        [.command (Caller.serversCommand s interface)] := by
  simp [configuring, commands_eq]

/-- Nothing is given back before the end of the configuration. -/
theorem unsubscribe_notMem_configuring (s : Setup) (interface : String) (id : SubscriptionId) :
    .unsubscribe id ∉ s.configuring interface := by
  simp only [configuring, List.mem_append, List.mem_map, opening]
  split <;> simp

/-- Whatever comes before the end of the configuration is planned. -/
theorem prefix_plan {s : Setup} {interface : String} {es : List Errand}
    (first : es <+: s.configuring interface) (id : SubscriptionId) (looks n : Nat) :
    es <+: s.plan interface id looks n :=
  first.trans ((List.prefix_append _ _).trans (List.prefix_append _ _))

/-- So is the configuration as a whole. -/
theorem configuring_planned (s : Setup) (interface : String) (id : SubscriptionId) (looks n : Nat) :
    s.configuring interface <+: s.plan interface id looks n :=
  prefix_plan (List.prefix_refl _) id looks n

/-- So is whatever comes before the end of the search. -/
theorem prefix_plan_of_search {s : Setup} {interface : String} {es : List Errand}
    {id : SubscriptionId} {looks : Nat} (first : es <+: s.search id looks) (n : Nat) :
    s.configuring interface ++ es <+: s.plan interface id looks n :=
  ((List.prefix_append_right_inj _).mpr first).trans (List.prefix_append _ _)

/-- With events, the one look is planned. -/
theorem looked_planned {s : Setup} (events : s.mode = .events) (interface : String)
    (id : SubscriptionId) (n : Nat) :
    s.configuring interface ++ [.list] <+: s.plan interface id 0 n := by
  refine prefix_plan_of_search ?_ n
  simp [search, events]

/-- While a polling caller waits, a look more is planned. -/
theorem plan_concat_look {s : Setup} (polling : s.mode = .polling) (interface : String)
    (id : SubscriptionId) (looks : Nat) :
    s.plan interface id looks 0 ++ [.list] = s.plan interface id (looks + 1) 0 := by
  simp [plan, search, polling, readings, List.replicate_succ']

/-- An address that ends the wait was reported after a command had been carried out. -/
def Seen (target : InterfaceKind) (s : Setup) (ds : List Dealing) : Prop :=
  ∃ before d after, ds = before ++ d :: after ∧ d.shows ⟨target, s.desired⟩ = true ∧
    ∃ command, .asked (.command command) (.ok ()) ∈ before

/-- The first dealing is a look at the interfaces, and the first one of the target kind bears this
name. -/
def Picked (target : InterfaceKind) (interface : String) (ds : List Dealing) : Prop :=
  ∃ interfaces i, ds.head? = some (.asked .listInterfaces (.ok interfaces)) ∧
    Probe.pick? target interfaces = some i ∧ i.name = interface

/-- The dealings of a setup are in order, with this interface and this subscription. -/
structure InOrder (target : InterfaceKind) (s : Setup) (interface : String) (id : SubscriptionId)
    (ds : List Dealing) : Prop where
  /-- The calls are the first of those that are planned. -/
  planned : ∃ looks n, ds.filterMap Dealing.errand? <+: s.plan interface id looks n
  /-- Nothing is asked after a failure. -/
  sound : ∀ d ∈ ds.dropLast, d.fails = false
  /-- Commands are for the interface that was picked. -/
  picked : ∀ command reply, .asked (.command command) reply ∈ ds → Picked target interface ds
  /-- Only what was taken is given back. -/
  taken : ∀ other, .gaveBack other ∈ ds → .asked .subscribe (.ok other) ∈ ds
  /-- The clock is read only when an address has been seen. -/
  seen : ∀ before year after, ds = before ++ .asked .readClock year :: after → s.Seen target before

/-- The dealings are in order, and after a failure at most the subscription is given back, if it was
not before. -/
def Conforms (target : InterfaceKind) (s : Setup) (ds : List Dealing) : Prop :=
  ∃ interface id made rest, ds = made ++ rest ∧ s.InOrder target interface id made ∧
    (rest = [] ∨ rest = [.gaveBack id] ∧ (∃ d, made.getLast? = some d ∧ d.fails = true) ∧
      .asked .subscribe (.ok id) ∈ made ∧ .gaveBack id ∉ made)

/-! ## Lists in which nothing has failed -/

/-- Nothing has failed in these dealings; an interface was picked, this subscription is owed, and
these calls have been made. -/
structure Made (target : InterfaceKind) (s : Setup) (interface : String)
    (lease? : Option SubscriptionId) (ds : List Dealing) (es : List Errand) : Prop where
  errands : ds.filterMap Dealing.errand? = es
  sound : ∀ d ∈ ds, d.fails = false
  picked : Picked target interface ds
  leased : ∀ id ∈ lease?, .asked .subscribe (.ok id) ∈ ds
  taken : ∀ id, .gaveBack id ∈ ds → .asked .subscribe (.ok id) ∈ ds
  seen : ∀ before year after, ds = before ++ .asked .readClock year :: after → s.Seen target before

variable {target : InterfaceKind} {s : Setup} {interface : String} {id : SubscriptionId}
  {lease? : Option SubscriptionId} {ds : List Dealing} {es : List Errand} {d : Dealing}

theorem Seen.append (seen : s.Seen target ds) (more : List Dealing) : s.Seen target (ds ++ more) := by
  obtain ⟨before, d, after, rfl, rest⟩ := seen
  exact ⟨before, d, after ++ more, by simp, rest⟩

theorem Picked.append (picked : Picked target interface ds) (more : List Dealing) :
    Picked target interface (ds ++ more) := by
  obtain ⟨interfaces, i, first, rest⟩ := picked
  refine ⟨interfaces, i, ?_, rest⟩
  rw [List.head?_append, first]
  rfl

/-- What every reading of the clock has before it, it has before it in a longer list. -/
theorem seen_concat
    (seen : ∀ before year after, ds = before ++ .asked .readClock year :: after →
      s.Seen target before)
    (last : ∀ year, d = .asked .readClock year → s.Seen target ds) :
    ∀ before year after, ds ++ [d] = before ++ .asked .readClock year :: after →
      s.Seen target before := by
  intro before year after split
  rcases List.eq_nil_or_concat after with rfl | ⟨after, e, rfl⟩
  · obtain ⟨rfl, here⟩ := List.append_inj' split rfl
    exact last year (List.singleton_inj.mp here)
  · rw [List.concat_eq_append, ← List.cons_append, ← List.append_assoc] at split
    obtain ⟨rfl, -⟩ := List.append_inj' split rfl
    exact seen before year after rfl

namespace Made

/-- One dealing more, without a failure. -/
theorem concat (made : s.Made target interface lease? ds es) (sound : d.fails = false)
    (back : ∀ id, d = .gaveBack id → id ∈ lease?)
    (clock : ∀ year, d = .asked .readClock year → s.Seen target ds) :
    s.Made target interface lease? (ds ++ [d]) (es ++ d.errand?.toList) where
  errands := by
    rw [List.filterMap_append, made.errands]
    cases here : d.errand? <;> simp [here]
  sound e mem := by
    rcases List.mem_append.mp mem with old | new
    · exact made.sound e old
    · rw [List.mem_singleton.mp new]
      exact sound
  picked := made.picked.append [d]
  leased id mem := List.mem_append_left _ (made.leased id mem)
  taken id mem := by
    refine List.mem_append_left _ ?_
    rcases List.mem_append.mp mem with old | new
    · exact made.taken id old
    · exact made.leased id (back id (List.mem_singleton.mp new).symm)
  seen := seen_concat made.seen clock

/-- One dealing more that is no call to the network or to the clock. -/
theorem aside (made : s.Made target interface lease? ds es) (sound : d.fails = false)
    (silent : d.errand? = none) : s.Made target interface lease? (ds ++ [d]) es := by
  have longer := made.concat sound (by rintro id rfl; cases silent)
    (by rintro year rfl; cases silent)
  rwa [silent, Option.toList_none, List.append_nil] at longer

/-- Nothing is owed any more. -/
theorem release (made : s.Made target interface lease? ds es) :
    s.Made target interface none ds es :=
  { made with leased := nofun }

/-- What was commanded was carried out. -/
theorem commanded (made : s.Made target interface lease? ds es) {command : NetworkCommand}
    (mem : .command command ∈ es) : .asked (.command command) (.ok ()) ∈ ds := by
  rw [← made.errands] at mem
  obtain ⟨d, here, errand⟩ := List.mem_filterMap.mp mem
  have sound := made.sound d here
  cases d with
  | gaveBack id => cases errand
  | asked q reply =>
    cases q with
    | command c =>
      cases errand
      cases reply with
      | error cause => cases sound
      | ok done => exact here
    | _ => cases errand

/-- A report of the address. -/
theorem seen_of_shows (made : s.Made target interface lease? ds es)
    (configured : s.configuring interface <+: es) (shows : d.shows ⟨target, s.desired⟩ = true) :
    s.Seen target (ds ++ [d]) := by
  refine ⟨ds, d, [], rfl, shows, Caller.addressCommand s interface, made.commanded ?_⟩
  refine configured.subset ?_
  simp [configuring_eq]

/-- Stopping here. -/
theorem inOrder (made : s.Made target interface lease? ds es) {looks n : Nat}
    (planned : es <+: s.plan interface id looks n) : s.InOrder target interface id ds where
  planned := ⟨looks, n, made.errands ▸ planned⟩
  sound d mem := made.sound d ((List.dropLast_prefix ds).subset mem)
  picked _ _ _ := made.picked
  taken := made.taken
  seen := made.seen

theorem conforms (made : s.Made target interface lease? ds es) {looks n : Nat}
    (planned : es <+: s.plan interface id looks n) : s.Conforms target ds :=
  ⟨interface, id, ds, [], (List.append_nil ds).symm, made.inOrder planned, .inl rfl⟩

/-- Stopping at a failure. -/
theorem inOrder_of_fails (made : s.Made target interface lease? ds es) (fails : d.fails = true)
    {looks n : Nat} (planned : es ++ d.errand?.toList <+: s.plan interface id looks n) :
    s.InOrder target interface id (ds ++ [d]) where
  planned := by
    refine ⟨looks, n, ?_⟩
    rw [List.filterMap_append, made.errands]
    cases here : d.errand? <;> simpa [here] using planned
  sound e mem := by
    rw [List.dropLast_concat] at mem
    exact made.sound e mem
  picked _ _ _ := made.picked.append [d]
  taken id mem := by
    refine List.mem_append_left _ ?_
    rcases List.mem_append.mp mem with old | new
    · exact made.taken id old
    · rw [← List.mem_singleton.mp new] at fails
      cases fails
  seen := by
    refine seen_concat made.seen ?_
    rintro year rfl
    cases fails

/-- After a failure the subscription that is owed may be given back. -/
theorem stops (made : s.Made target interface lease? ds es) (fails : d.fails = true)
    {looks n : Nat} (planned : ∀ id, es ++ d.errand?.toList <+: s.plan interface id looks n)
    (owed : ∀ id, .unsubscribe id ∉ es) :
    s.Conforms target (ds ++ [d]) ∧
      ∀ id ∈ lease?, s.Conforms target (ds ++ [d] ++ [.gaveBack id]) := by
  constructor
  · exact ⟨interface, ⟨0⟩, ds ++ [d], [], (List.append_nil _).symm,
      made.inOrder_of_fails fails (planned ⟨0⟩), .inl rfl⟩
  · intro id leased
    refine ⟨interface, id, ds ++ [d], [.gaveBack id], rfl, made.inOrder_of_fails fails (planned id),
      .inr ⟨rfl, ⟨d, by simp, fails⟩, List.mem_append_left _ (made.leased id leased), ?_⟩⟩
    intro mem
    rcases List.mem_append.mp mem with old | new
    · have made_before : .unsubscribe id ∈ ds.filterMap Dealing.errand? :=
        List.mem_filterMap.mpr ⟨_, old, rfl⟩
      exact owed id (made.errands ▸ made_before)
    · rw [← List.mem_singleton.mp new] at fails
      cases fails

end Made

/-- Where nobody was commanded, nothing was given back and the clock was not read, it is enough that
the calls are planned and that none but the last has failed. -/
theorem conforms_of_errands (sound : ∀ d ∈ ds.dropLast, d.fails = false)
    (first : ds.filterMap Dealing.errand? <+: s.opening)
    (plain : ∀ d ∈ ds, d.errand? = some .list ∨ d.errand? = some .subscribe) :
    s.Conforms target ds := by
  have planned : ds.filterMap Dealing.errand? <+: s.plan "" ⟨0⟩ 0 0 :=
    prefix_plan (first.trans (List.prefix_append _ _)) _ _ _
  refine ⟨"", ⟨0⟩, ds, [], (List.append_nil ds).symm, ⟨⟨0, 0, planned⟩, sound, ?_, ?_, ?_⟩, .inl rfl⟩
  · intro command reply mem
    rcases plain _ mem with list | subscribe
    · cases list
    · cases subscribe
  · intro id mem
    rcases plain _ mem with list | subscribe
    · cases list
    · cases subscribe
  · rintro before year after rfl
    rcases plain (.asked .readClock year) (by simp) with list | subscribe
    · cases list
    · cases subscribe

/-- A setup that has not dealt with anybody yet. -/
theorem conforms_nil (target : InterfaceKind) (s : Setup) : s.Conforms target [] :=
  conforms_of_errands (by simp) List.nil_prefix (by simp)

end Setup

end Uplink.Readiness
