import Mathlib.Data.List.Chain
import Uplink.Proofs.Host.Delivery
import Uplink.Proofs.Host.Staffing

/-!
# A watcher reports the differences

A listener that stays hears exactly how each list of interfaces differs from all that was listed
before it. What a watcher compares with is a table of last addresses, which it keeps up to date
entry by entry; what it is compared with here is the whole history of lists, entry after entry.

## Main definitions

- `lastAddress?`: the last address that a history lists for a name.
- `differences`: the entries of a list that differ from the history before them.
- `Known.Recalls`: a table holds the last addresses of a history.
- `heardBy`: the changes among some calls that a listener was told of.
- `System.looks`: what a watcher sees during a run.

## Main results

- `Known.news_eq_differences`: what is news to a table is what differs from its history.
- `lastAddress?_differences`: the differences replace the lists they were taken from.
- `isChain_differences`: no address is reported twice in a row.
- `Watcher.reports_step`: what one step adds to what was told and what is still to be told.
- `System.told_differences`: what a listener has heard after any number of rounds.
-/

namespace Uplink.Host

/-! ## Differences from a history -/

/-- The last address that is listed for a name. -/
def lastAddress? (name : String) (listed : List AddressChange) : Option Address :=
  listed.reverse.findSome? fun entry => if entry.name = name then some entry.ipv4 else none

/-- The entries of a list whose address is not the last one listed for their name before them. -/
def differences (listed : List AddressChange) : List AddressChange → List AddressChange
  | [] => []
  | entry :: rest =>
    if lastAddress? entry.name listed = some entry.ipv4 then differences (listed ++ [entry]) rest
    else entry :: differences (listed ++ [entry]) rest

variable {listed : List AddressChange} {entry : AddressChange} {name : String}

/-- An entry replaces the last address of its name, and of no other. -/
theorem lastAddress?_concat (name : String) (listed : List AddressChange) (entry : AddressChange) :
    lastAddress? name (listed ++ [entry]) =
      if entry.name = name then some entry.ipv4 else lastAddress? name listed := by
  rw [lastAddress?, List.reverse_concat, List.findSome?_cons]
  split <;> simp_all [lastAddress?]

/-- An entry that says nothing new leaves all last addresses as they were. -/
theorem lastAddress?_concat_of_same (same : lastAddress? entry.name listed = some entry.ipv4)
    (name : String) : lastAddress? name (listed ++ [entry]) = lastAddress? name listed := by
  rw [lastAddress?_concat]
  split
  next here => rw [← here, same]
  next => rfl

/-- What a list says of a name counts, whatever was listed before. -/
theorem lastAddress?_append_of_mem {later : List AddressChange}
    (shown : ∃ entry ∈ later, entry.name = name) :
    lastAddress? name (listed ++ later) = lastAddress? name later := by
  obtain ⟨entry, mem, here⟩ := shown
  rw [lastAddress?, lastAddress?, List.reverse_append, List.findSome?_append]
  have found : (later.reverse.findSome? fun entry =>
      if entry.name = name then some entry.ipv4 else none).isSome = true :=
    List.findSome?_isSome_iff.mpr ⟨entry, List.mem_reverse.mpr mem, by simp [here]⟩
  obtain ⟨a, found⟩ := Option.isSome_iff_exists.mp found
  rw [found, Option.some_or]

/-- Differences are taken from one list after the other. -/
theorem differences_append (listed first second : List AddressChange) :
    differences listed (first ++ second) =
      differences listed first ++ differences (listed ++ first) second := by
  induction first generalizing listed with
  | nil => simp [differences]
  | cons entry first ih =>
    rw [List.cons_append, differences, differences, ih]
    split <;> simp

/-- With the differences in place of the lists, a history ends with the same addresses. -/
theorem lastAddress?_differences (listed rest : List AddressChange) (name : String) :
    lastAddress? name (listed ++ differences listed rest) = lastAddress? name (listed ++ rest) := by
  -- The history that the differences are added to may itself be one of differences.
  suffices general : ∀ known : List AddressChange,
      (∀ name, lastAddress? name known = lastAddress? name listed) →
        lastAddress? name (known ++ differences listed rest) =
          lastAddress? name (listed ++ rest) from general listed fun _ => rfl
  induction rest generalizing listed with
  | nil =>
    intro known agree
    simpa [differences] using agree name
  | cons entry rest ih =>
    intro known agree
    rw [List.append_cons listed entry rest, differences]
    split
    next same =>
      refine ih (listed ++ [entry]) known fun name => ?_
      rw [lastAddress?_concat_of_same same, agree]
    next =>
      rw [List.append_cons known]
      refine ih (listed ++ [entry]) (known ++ [entry]) fun name => ?_
      rw [lastAddress?_concat, lastAddress?_concat, agree]

/-- The addresses that are reported for a name, after the last one that was listed before. -/
theorem isChain_reported (listed rest : List AddressChange) (name : String) :
    List.IsChain (· ≠ ·) (lastAddress? name listed ::
      ((differences listed rest).filter (·.name = name)).map (some ·.ipv4)) := by
  induction rest generalizing listed with
  | nil => simp [differences]
  | cons entry rest ih =>
    have later := ih (listed ++ [entry])
    rw [differences]
    split
    next same => rwa [lastAddress?_concat_of_same same] at later
    next new =>
      rw [lastAddress?_concat] at later
      by_cases here : entry.name = name
      · subst here
        rw [if_pos rfl] at later
        simpa using ⟨new, later⟩
      · rw [if_neg here] at later
        simpa [here] using later

/-- No two reports for a name in a row carry the same address. -/
theorem isChain_differences (listed rest : List AddressChange) (name : String) :
    (((differences listed rest).filter (·.name = name)).map (·.ipv4)).IsChain (· ≠ ·) := by
  have reported := (isChain_reported listed rest name).tail
  rw [List.tail_cons, List.isChain_map] at reported
  rw [List.isChain_map]
  exact reported.imp fun _ _ apart same => apart (congrArg some same)

/-! ## The table of a watcher -/

namespace Known

/-- A table holds the last addresses of a history. -/
def Recalls (k : Known) (listed : List AddressChange) : Prop :=
  ∀ name, k.last? name = lastAddress? name listed

theorem recalls_nil : Recalls [] [] := fun _ => rfl

variable {k : Known}

/-- Noting an interface is listing it. -/
theorem Recalls.note (recalls : k.Recalls listed) (i : Interface) :
    (k.note i).Recalls (listed ++ [i.change]) := by
  intro name
  rw [lastAddress?_concat]
  by_cases here : i.name = name
  · subst here
    simp [Interface.change]
  · rw [last?_note_of_ne k (Ne.symm here), recalls name, if_neg]
    exact here

/-- Noting all interfaces of a list is listing them one after the other. -/
theorem Recalls.noteAll (recalls : k.Recalls listed) (interfaces : List Interface) :
    (k.noteAll interfaces).Recalls (listed ++ interfaces.map Interface.change) := by
  induction interfaces generalizing k listed with
  | nil => simpa [Known.noteAll] using recalls
  | cons i rest ih =>
    rw [noteAll_cons, List.map_cons, List.append_cons]
    exact ih (recalls.note i)

/-- What is news to a table is what differs from the history that it holds. -/
theorem news_eq_differences (recalls : k.Recalls listed) (interfaces : List Interface) :
    (k.news interfaces).map Interface.change =
      differences listed (interfaces.map Interface.change) := by
  induction interfaces generalizing k listed with
  | nil => rfl
  | cons i rest ih =>
    have new : k.isNews i = true ↔
        ¬ lastAddress? i.change.name listed = some i.change.ipv4 := by
      simp [isNews, recalls i.name, Interface.change]
    rw [news, List.map_cons, differences]
    by_cases same : lastAddress? i.change.name listed = some i.change.ipv4
    · rw [if_neg (by simpa [new] using same), if_pos same]
      exact ih (recalls.note i)
    · rw [if_pos (new.mpr same), if_neg same, List.map_cons, ih (recalls.note i)]

end Known

/-! ## What a listener hears -/

/-- The changes that a listener is told of in some calls. -/
def heardBy (id : SubscriptionId) (calls : List (SubscriptionId × AddressChange)) :
    List AddressChange :=
  calls.filterMap fun call => if call.1 = id then some call.2 else none

variable {id : SubscriptionId}

@[simp] theorem heardBy_nil : heardBy id [] = [] := rfl

@[simp] theorem heardBy_append (first second : List (SubscriptionId × AddressChange)) :
    heardBy id (first ++ second) = heardBy id first ++ heardBy id second :=
  List.filterMap_append

/-- A listener that is once in the audience hears each change once. -/
theorem heardBy_announcements {audience : List SubscriptionId} (once : audience.count id = 1)
    (interfaces : List Interface) :
    heardBy id (interfaces.flatMap fun i => audience.map fun other => (other, i.change)) =
      interfaces.map Interface.change := by
  have single (i : Interface) :
      heardBy id (audience.map fun other => (other, i.change)) = [i.change] := by
    rw [← List.replicate_one, ← once]
    clear once
    induction audience with
    | nil => rfl
    | cons other rest ih =>
      rw [List.map_cons, ← List.singleton_append, heardBy_append, ih, List.count_cons]
      by_cases here : other = id
      · simp [heardBy, here, List.replicate_succ]
      · simp [heardBy, here]
  induction interfaces with
  | nil => rfl
  | cons i rest ih =>
    rw [List.flatMap_cons, heardBy_append, single, ih, List.map_cons, List.singleton_append]

namespace Watcher

/-- A listener is once in the audience of a watcher that has one. -/
def Addresses (id : SubscriptionId) : Watcher → Prop
  | look _ audience | tell _ audience _ _ => audience.count id = 1
  | _ => True

variable {w : Watcher} {t : ListenerTable} {k : Known}

/-- What one step adds to what is remembered, and to what a listener was told and is still to be
told: at a look, what the look differs in from all looks before, and otherwise nothing. -/
theorem reports_step (remembers : w.memory? = some k) (recalls : k.Recalls listed)
    (addresses : w.Addresses id) (once : t.subscribers.count id = 1) (seen : List Interface) :
    let m := w.step t seen
    let sight := if w.looksNext then seen.map Interface.change else []
    (∃ k', m.next.memory? = some k' ∧ k'.Recalls (listed ++ sight)) ∧ m.next.Addresses id ∧
      heardBy id m.call.toList ++ heardBy id m.next.outstanding =
        heardBy id w.outstanding ++ differences listed sight := by
  cases w with
  | start => cases remembers
  | stopped => cases remembers
  | sleep known =>
    cases remembers
    exact ⟨⟨k, rfl, by simpa [looksNext] using recalls⟩, trivial, rfl⟩
  | enter known =>
    cases remembers
    have occupied : t.subscribers.isEmpty = false := by
      rw [List.isEmpty_eq_false_iff]
      rintro empty
      simp [empty] at once
    simp only [step, stepEnter, occupied]
    exact ⟨⟨k, rfl, by simpa [looksNext] using recalls⟩, once, rfl⟩
  | look known audience =>
    cases remembers
    refine ⟨⟨_, rfl, recalls.noteAll seen⟩, addresses, ?_⟩
    simp only [step, outstanding, looksNext, if_true, Option.toList_none, heardBy_nil,
      List.nil_append]
    rw [heardBy_announcements addresses, Known.news_eq_differences recalls]
  | tell known audience calls rest =>
    cases calls with
    | cons call calls =>
      refine ⟨⟨k, remembers, by simpa [looksNext] using recalls⟩, addresses, ?_⟩
      simp only [step, outstanding, looksNext, Option.toList_some, differences, List.append_nil,
        Bool.false_eq_true, if_false]
      rw [← heardBy_append, ← List.append_assoc, List.singleton_append]
    | nil =>
      cases rest with
      | nil => exact ⟨⟨k, remembers, by simpa [looksNext] using recalls⟩, trivial, rfl⟩
      | cons i rest =>
        simp only [step, outstanding_stepInterface, memory?_stepInterface, looksNext,
          Bool.false_eq_true, if_false, List.append_nil, differences]
        refine ⟨⟨k, remembers, recalls⟩, ?_, ?_⟩
        · unfold stepInterface
          split <;> exact addresses
        · unfold stepInterface
          split <;> rfl

end Watcher

namespace System

variable {p : Probes} {s s' : System} {i : Nat} {es : List Event}

/-- What a watcher sees, if this event is a look of it. -/
def look? (p : Probes) (i : Nat) (s : System) : Event → Option (List AddressChange)
  | .watch j w => if i = j ∧ w.looksNext then some ((s.seen p).map Interface.change) else none
  | _ => none

/-- What a watcher sees during a run, look after look. -/
abbrev looks (p : Probes) (i : Nat) (s : System) (es : List Event) : List (List AddressChange) :=
  notedFrom (after? p) (look? p i) s es

/-- While a watcher goes on, it is the only one that tells anything. -/
theorem told_eq_of_other {e : Event} {w : Watcher} (staffed : s.Staffed)
    (present : s.watchers[i]? = some w) (live : w.isLive = true) (other : ∀ v, e ≠ .watch i v)
    (after : s.after? p e = some s') : s'.told = s.told ∧ look? p i s e = none := by
  cases e with
  | watch j v =>
    obtain ⟨there, rfl⟩ := after?_watch_eq_some.mp after
    have apart : i ≠ j := by
      rintro rfl
      exact other v rfl
    have idle : v = .stopped := by
      by_contra going
      have few : s.watchers.countP (·.isLive) ≤ 1 := staffed.counted ▸ Bool.toNat_le _
      have live' : v.isLive = true := by cases v <;> first | rfl | exact (going rfl).elim
      exact apart (eq_of_countP_le_one few present there live live')
    subst idle
    exact ⟨List.append_nil _, by simp [look?, Watcher.looksNext]⟩
  | register id start =>
    obtain ⟨-, rfl⟩ := after?_register_eq_some.mp after
    exact ⟨rfl, rfl⟩
  | draw | unsubscribe | change | command =>
    cases after
    exact ⟨rfl, rfl⟩

/-- From any moment on: a listener is told what it was still to be told, and what the looks that
follow differ in from the looks before. -/
theorem told_of_recalls {w w' : Watcher} {k : Known} (staffed : s.Staffed)
    (present : s.watchers[i]? = some w) (remembers : w.memory? = some k)
    (recalls : k.Recalls listed) (addresses : w.Addresses id) (run : s.run? p es = some s')
    (registered : ∀ m ∈ s.states p es, m.network.table.subscribers.count id = 1)
    (present' : s'.watchers[i]? = some w') :
    heardBy id s'.told ++ heardBy id w'.outstanding =
      heardBy id s.told ++ heardBy id w.outstanding ++
        differences listed (s.looks p i es).flatten := by
  induction es generalizing s w k listed with
  | nil =>
    cases run
    cases present.symm.trans present'
    simp [differences]
  | cons e es ih =>
    obtain ⟨next, after, rest⟩ := runFrom?_cons_eq_some.mp run
    have once := registered s (by simp [statesFrom])
    have still : ∀ m ∈ next.states p es, m.network.table.subscribers.count id = 1 :=
      fun m mem => registered m (by simp [statesFrom, after, mem])
    have live : w.isLive = true := by cases w <;> first | rfl | cases remembers
    -- A turn of the watcher adds to both sides alike; nothing else adds to either.
    rw [looks, notedFrom_cons after]
    by_cases own : ∃ v, e = .watch i v
    · obtain ⟨v, rfl⟩ := own
      obtain ⟨there, rfl⟩ := after?_watch_eq_some.mp after
      cases present.symm.trans there
      have here := (List.getElem?_eq_some_iff.mp present).1
      obtain ⟨⟨k', remembers', recalls'⟩, addresses', told⟩ :=
        Watcher.reports_step remembers recalls addresses once (s.seen p)
      have later := ih (staffed.after? after) (by rw [watchers_advance, List.getElem?_set_self here])
        remembers' recalls' addresses' rest still
      have sight : (look? p i s (.watch i w)).toList.flatten =
          if w.looksNext then (s.seen p).map Interface.change else [] := by
        cases looks : w.looksNext <;> simp [look?, looks]
      rw [later, told_advance, heardBy_append, List.append_assoc (heardBy id s.told), told,
        List.flatten_append, sight, differences_append]
      simp only [List.append_assoc]
    · have other : ∀ v, e ≠ .watch i v := fun v same => own ⟨v, same⟩
      obtain ⟨told, blind⟩ := told_eq_of_other staffed present live other after
      rw [ih (staffed.after? after) (watcher_after? present other after) remembers recalls addresses
        rest still, told, blind, Option.toList_none, List.nil_append]

/-- Until a watcher has taken its first look, nobody is told anything; afterwards a listener is told
of the differences from it. -/
theorem told_of_start {w' : Watcher} (staffed : s.Staffed) (present : s.watchers[i]? = some .start)
    (run : s.run? p es = some s')
    (registered : ∀ m ∈ s.states p es, m.network.table.subscribers.count id = 1)
    (present' : s'.watchers[i]? = some w') (begun : w' ≠ .start) :
    ∃ first later, s.looks p i es = first :: later ∧
      heardBy id s'.told ++ heardBy id w'.outstanding =
        heardBy id s.told ++ differences first later.flatten := by
  induction es generalizing s with
  | nil =>
    cases run
    cases present.symm.trans present'
    exact (begun rfl).elim
  | cons e es ih =>
    obtain ⟨next, after, rest⟩ := runFrom?_cons_eq_some.mp run
    have still : ∀ m ∈ next.states p es, m.network.table.subscribers.count id = 1 :=
      fun m mem => registered m (by simp [statesFrom, after, mem])
    rw [looks, notedFrom_cons after]
    by_cases own : ∃ v, e = .watch i v
    · obtain ⟨v, rfl⟩ := own
      obtain ⟨there, rfl⟩ := after?_watch_eq_some.mp after
      cases present.symm.trans there
      have here := (List.getElem?_eq_some_iff.mp present).1
      have recalls : (Known.noteAll [] (s.seen p)).Recalls ((s.seen p).map Interface.change) :=
        Known.recalls_nil.noteAll _
      have first : look? p i s (.watch i .start) = some ((s.seen p).map Interface.change) := by
        simp [look?, Watcher.looksNext]
      have told := told_of_recalls (w := .sleep _) (staffed.after? after)
        (by rw [watchers_advance, List.getElem?_set_self here]; rfl) rfl recalls trivial rest still
        present'
      refine ⟨_, _, by rw [first]; rfl, told.trans ?_⟩
      simp [told_advance, Watcher.step, Watcher.outstanding]
    · have other : ∀ v, e ≠ .watch i v := fun v same => own ⟨v, same⟩
      obtain ⟨told, blind⟩ := told_eq_of_other staffed present rfl other after
      rw [← told, blind]
      exact ih (staffed.after? after) (watcher_after? present other after) rest still

/-- A watcher starts, and whenever it has completed a round a listener that was registered all the
time has heard of every entry of its looks whose address was not the last one listed for the name
before, of each once and in this order, and of nothing else. No two of these reports for a name in a
row carry the same address. With the reports put behind the first look, the last address of every
name is the last one that was listed for it, in the last look if that lists the name. -/
theorem told_differences {mode : HostMode} {machine : List MachineInterface} {before : List Event}
    {known : Known} (reached : (new mode machine).run? p before = some s)
    (starts : s.watchers[i]? = some .start) (run : s.run? p es = some s')
    (rests : s'.watchers[i]? = some (.sleep known))
    (registered : ∀ m ∈ s.states p es, m.network.table.subscribers.count id = 1) :
    ∃ first later reports, s.looks p i es = first :: later ∧
      heardBy id s'.told = heardBy id s.told ++ reports ∧
      reports = differences first later.flatten ∧
      (∀ name, ((reports.filter (·.name = name)).map (·.ipv4)).IsChain (· ≠ ·)) ∧
      (∀ name, lastAddress? name (first ++ reports) = lastAddress? name (first ++ later.flatten)) ∧
      ∀ last ∈ (first :: later).getLast?, ∀ name, (∃ entry ∈ last, entry.name = name) →
        lastAddress? name (first ++ reports) = lastAddress? name last := by
  obtain ⟨first, later, looks, told⟩ := told_of_start ((Staffed.new mode machine).run? reached)
    starts run registered rests (by simp)
  have replayed (name : String) := lastAddress?_differences first later.flatten name
  refine ⟨first, later, _, looks, by simpa [Watcher.outstanding] using told, rfl,
    isChain_differences first _, replayed, fun last mem name shown => ?_⟩
  obtain ⟨others, split⟩ := List.getLast?_eq_some_iff.mp mem
  have history : first ++ later.flatten = others.flatten ++ last := by
    rw [← List.flatten_cons, split, List.flatten_append, List.flatten_singleton]
  rw [replayed, history, lastAddress?_append_of_mem shown]

/-- The loopback address comes up, then the interface vanishes, and then it is back with the address
that it had before. -/
def vanishing : List Event :=
  [.watch 0 .start, .change [loopback]] ++ newsRound ++
    [.change [], .watch 0 (.sleep loopbackKnown), .watch 0 (.enter loopbackKnown),
      .watch 0 (.look loopbackKnown [⟨0⟩]), .watch 0 (.tell loopbackKnown [⟨0⟩] [] []),
      .change [loopback]] ++ quietRound

theorem told_differences_vanishing :
    ∃ s s', (new .observe [bareLoopback]).run? .blind [.draw, .register ⟨0⟩ (.ok ())] = some s ∧
      s.run? .blind vanishing = some s' ∧
      (∀ m ∈ s.states .blind vanishing, m.network.table.subscribers.count ⟨0⟩ = 1) ∧
      s.looks .blind 0 vanishing = [[⟨"lo", .loopback, .any⟩], [⟨"lo", .loopback, .loopback⟩], [],
        [⟨"lo", .loopback, .loopback⟩]] ∧
      heardBy ⟨0⟩ s'.told = [⟨"lo", .loopback, .loopback⟩] := by
  refine ⟨_, _, rfl, rfl, by decide, rfl, ?_⟩
  obtain ⟨first, later, reports, looks, heard, same, -⟩ :=
    @told_differences ⟨0⟩ .blind _ _ 0 vanishing .observe [bareLoopback]
      [.draw, .register ⟨0⟩ (.ok ())] loopbackKnown rfl rfl rfl rfl (by decide)
  cases looks
  rw [heard, same]
  decide

end System

end Uplink.Host
