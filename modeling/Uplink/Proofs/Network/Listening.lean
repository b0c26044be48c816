import Mathlib.Algebra.Group.Nat.Defs
import Mathlib.Data.List.Nodup
import Uplink.Proofs.Network.Assignment
import Uplink.Proofs.Network.Shared

/-!
# What listeners of a simulated network are told

From one thread, a simulated network is given one operation after the other: subscriptions and their
ends, writes, commands, releases of held back addresses. What is written is decided by these
operations alone, whoever listens; and every listener is told of all that is written to existing
interfaces from its subscription to its end, once and in its order, and of nothing else.

Writes tell their audience by name, one name after the other. That nobody is told twice rests on the
names being distinct, so subscriptions are counted first: they are numbered from zero on, and the
numbers do not come round again before there are `2 ^ 64` of them.

## Main definitions

- `NetworkOperation`, `SimulatedNetwork.operate`: the operations.
- `SimulatedNetwork.dispatch`, `SimulatedNetwork.dispatchAll`: what operations write, and what they
  leave to be written.
- `SimulatedNetwork.issued`: the subscriptions that operations make.
- `SimulatedNetwork.Numbered`: subscriptions are numbered in their order.
- `SimulatedNetwork.Alike`: networks that are alike but for other listeners.

## Main results

- `SimulatedNetwork.tell_eq`: where names are distinct, everybody who listens is told once.
- `SimulatedNetwork.listener?_operate`: what one operation does to a listener.
- `SimulatedNetwork.listener?_operateAll`: what any number of them do to it.
- `SimulatedNetwork.each_change_once`: what every listener of a new network was told.
-/

namespace Uplink

/-- What can be done to a simulated network. -/
inductive NetworkOperation where
  | subscribe
  | unsubscribe (id : SubscriptionId)
  | setAddress (name : String) (a : Address)
  | command (c : NetworkCommand)
  | assignPending
  deriving DecidableEq, Repr

/-- A listener that is told of changes, if it still listens. -/
def Listener.hear (l : Listener) (changes : List AddressChange) : Listener :=
  if l.live then { l with inbox := l.inbox ++ changes } else l

@[simp] theorem Listener.id_hear (l : Listener) (changes : List AddressChange) :
    (l.hear changes).id = l.id := by
  unfold hear
  split <;> rfl

@[simp] theorem Listener.live_hear (l : Listener) (changes : List AddressChange) :
    (l.hear changes).live = l.live := by
  unfold hear
  split <;> rfl

@[simp] theorem Listener.hear_nil (l : Listener) : l.hear [] = l := by
  unfold hear
  split
  · rw [List.append_nil]
  · rfl

theorem Listener.hear_append (l : Listener) (changes later : List AddressChange) :
    l.hear (changes ++ later) = (l.hear changes).hear later := by
  cases live : l.live <;> simp [hear, live, List.append_assoc]

namespace SimulatedNetwork

variable {n m : SimulatedNetwork} {id other : SubscriptionId} {op : NetworkOperation}
  {ops : List NetworkOperation} {l : Listener} {count : Nat}

/-! ## Operations -/

/-- Carries out an operation. -/
def operate (n : SimulatedNetwork) : NetworkOperation → SimulatedNetwork
  | .subscribe => n.subscribe.1
  | .unsubscribe id => n.unsubscribe id
  | .setAddress name a => n.setAddress name a
  | .command c => (n.perform c).1
  | .assignPending => n.assignPending

/-- Carries out operations one after the other. -/
def operateAll (n : SimulatedNetwork) (ops : List NetworkOperation) : SimulatedNetwork :=
  ops.foldl operate n

/-- What an operation writes, and what is held back after it, where `held` was held back before. Of
the network it counts only whether it refuses commands, and whether it holds addresses back. -/
def dispatch (n : SimulatedNetwork) (held : List (String × Address)) :
    NetworkOperation → List (String × Address) × List (String × Address)
  | .setAddress name a => ([(name, a)], held)
  | .command c =>
    if n.refusal.isSome then ([], held)
    else if n.delayed then ([], held ++ c.assignment?.toList)
    else (c.assignment?.toList, held)
  | .assignPending => (held, [])
  | .subscribe | .unsubscribe _ => ([], held)

/-- What operations write one after the other, and what is held back in the end. -/
def dispatchAll (n : SimulatedNetwork) (held : List (String × Address)) :
    List NetworkOperation → List (String × Address) × List (String × Address)
  | [] => ([], held)
  | op :: ops =>
    let (now, held) := n.dispatch held op
    let (later, held) := n.dispatchAll held ops
    (now ++ later, held)

/-- The subscriptions that operations make, in their order. -/
def issued (n : SimulatedNetwork) : List NetworkOperation → List SubscriptionId
  | [] => []
  | op :: ops => (if op = .subscribe then [n.subscribe.2] else []) ++ (n.operate op).issued ops

theorem operateAll_append (n : SimulatedNetwork) (ops later : List NetworkOperation) :
    n.operateAll (ops ++ later) = (n.operateAll ops).operateAll later := List.foldl_append

/-! ## Telling -/

/-- Telling a change by distinct names tells it to everybody of these names, once. -/
theorem foldl_post (change : AddressChange) {ids : List SubscriptionId} (distinct : ids.Nodup)
    (listeners : List Listener) :
    ids.foldl (post change) listeners = listeners.map fun l =>
      if l.id ∈ ids then { l with inbox := l.inbox ++ [change] } else l := by
  induction ids generalizing listeners with
  | nil => simp
  | cons id ids ih =>
    obtain ⟨new, distinct⟩ := List.nodup_cons.mp distinct
    rw [List.foldl_cons, ih distinct, post, List.map_map]
    refine List.map_congr_left fun l _ => ?_
    by_cases named : l.id = id
    · simp [named, new]
    · simp [named]

/-- Where names are distinct, everybody who listens is told once. -/
theorem tell_eq (change : AddressChange) {listeners : List Listener}
    (distinct : (listeners.map (·.id)).Nodup) :
    tell change listeners = listeners.map (·.hear [change]) := by
  have names : ((listeners.filter (·.live)).map (·.id)).Nodup :=
    distinct.sublist (List.filter_sublist.map _)
  rw [tell, foldl_post change names]
  refine List.map_congr_left fun l mem => ?_
  -- One that has left would be told by its name all the same if another of the name listened.
  have addressed : l.id ∈ (listeners.filter (·.live)).map (·.id) ↔ l.live = true := by
    constructor
    · intro named
      obtain ⟨k, among, same⟩ := List.mem_map.mp named
      obtain ⟨there, live⟩ := List.mem_filter.mp among
      rwa [List.inj_on_of_nodup_map distinct there mem same] at live
    · exact fun live => List.mem_map_of_mem (List.mem_filter.mpr ⟨mem, live⟩)
  rw [Listener.hear]
  exact if_congr addressed rfl rfl

/-- Writes make no difference to what there is to tell of later ones. -/
theorem newsOf?_writeAll (n : SimulatedNetwork) (ws : List (String × Address)) :
    newsOf? (n.writeAll ws).interfaces = newsOf? n.interfaces := by
  induction ws generalizing n with
  | nil => rfl
  | cons w ws ih =>
    have first : newsOf? (n.setAddress w.1 w.2).interfaces = newsOf? n.interfaces := by
      rw [setAddress_eq]
      exact newsOf?_modifyFirst (f := fun i => { i with ipv4 := w.2 }) (fun _ => rfl)
        (fun _ => rfl) n.interfaces
    exact (ih _).trans first

/-- Telling leaves everybody's name, whether or not names are distinct. -/
theorem ids_tell (change : AddressChange) (listeners : List Listener) :
    (tell change listeners).map (·.id) = listeners.map (·.id) := by
  have kept (listeners : List Listener) (id : SubscriptionId) :
      (post change listeners id).map (·.id) = listeners.map (·.id) := by
    rw [post, List.map_map]
    refine List.map_congr_left fun l _ => ?_
    rw [Function.comp_apply]
    split <;> rfl
  exact List.foldlRecOn (motive := fun told => told.map (·.id) = listeners.map (·.id)) _ _ rfl
    fun told names id _ => (kept told id).trans names

theorem ids_writeAll (n : SimulatedNetwork) (ws : List (String × Address)) :
    (n.writeAll ws).listeners.map (·.id) = n.listeners.map (·.id) := by
  induction ws generalizing n with
  | nil => rfl
  | cons w ws ih =>
    refine (ih _).trans ?_
    show (n.setAddress w.1 w.2).listeners.map (·.id) = n.listeners.map (·.id)
    rw [setAddress_eq]
    cases newsOf? n.interfaces (w.1, w.2) with
    | none => rfl
    | some change => exact ids_tell change n.listeners

/-- Where names are distinct, everybody who listens is told of each write to an existing
interface. -/
theorem listeners_writeAll (distinct : (n.listeners.map (·.id)).Nodup)
    (ws : List (String × Address)) :
    (n.writeAll ws).listeners =
      n.listeners.map (·.hear (ws.filterMap (newsOf? n.interfaces))) := by
  induction ws generalizing n with
  | nil => simp [writeAll]
  | cons w ws ih =>
    have told : (n.setAddress w.1 w.2).listeners =
        n.listeners.map (·.hear (newsOf? n.interfaces w).toList) := by
      rw [setAddress_eq]
      cases newsOf? n.interfaces w with
      | none => simp
      | some change => exact tell_eq change distinct
    have news : newsOf? (n.setAddress w.1 w.2).interfaces = newsOf? n.interfaces :=
      n.newsOf?_writeAll [w]
    have names : (n.setAddress w.1 w.2).listeners.map (·.id) = n.listeners.map (·.id) :=
      n.ids_writeAll [w]
    have later := ih (n := n.setAddress w.1 w.2) (names ▸ distinct)
    rw [news, told, List.map_map] at later
    refine later.trans (List.map_congr_left fun l _ => ?_)
    rw [Function.comp_apply, ← Listener.hear_append, List.filterMap_cons]
    cases newsOf? n.interfaces w <;> rfl

/-! ## One operation -/

/-- What an operation does before it writes. -/
def prepare (n : SimulatedNetwork) : NetworkOperation → SimulatedNetwork
  | .subscribe => n.subscribe.1
  | .unsubscribe id => n.unsubscribe id
  | .setAddress .. => n
  | .command c =>
    if n.refusal.isSome then n
    else { n.note c with pending := (n.dispatch n.pending (.command c)).2 }
  | .assignPending => { n with pending := [] }

/-- Every operation is its preparation and what it writes. -/
theorem operate_eq (n : SimulatedNetwork) (op : NetworkOperation) :
    n.operate op = (n.prepare op).writeAll (n.dispatch n.pending op).1 := by
  cases op with
  | subscribe | unsubscribe | setAddress | assignPending => rfl
  | command c =>
    cases refused : n.refusal with
    | some message => simp [operate, perform, prepare, dispatch, refused, writeAll]
    | none =>
      cases delayed : n.delayed with
      | false =>
        have held : { n.note c with pending := n.pending } = n.note c := by
          cases c <;> rfl
        simp [operate, perform, prepare, dispatch, refused, apply_eq, delayed, held]
      | true => simp [operate, perform, prepare, dispatch, refused, apply_eq, delayed, writeAll]

/-- Notes make no difference to what there is to tell. -/
theorem newsOf?_note (n : SimulatedNetwork) (c : NetworkCommand) :
    newsOf? (n.note c).interfaces = newsOf? n.interfaces := by
  cases c with
  | staticAddress | dhcp => exact newsOf?_setDhcp _ _ _
  | staticServers | automaticServers => rfl

/-- What a preparation leaves alone, and what it makes of the addresses that are held back. -/
theorem prepare_keeps (n : SimulatedNetwork) (op : NetworkOperation) :
    (n.prepare op).refusal = n.refusal ∧ (n.prepare op).delayed = n.delayed ∧
      (n.prepare op).pending = (n.dispatch n.pending op).2 ∧
      newsOf? (n.prepare op).interfaces = newsOf? n.interfaces := by
  cases op with
  | subscribe | unsubscribe | setAddress | assignPending => exact ⟨rfl, rfl, rfl, rfl⟩
  | command c =>
    have notes : (n.note c).refusal = n.refusal ∧ (n.note c).delayed = n.delayed := by
      cases c <;> exact ⟨rfl, rfl⟩
    rw [prepare]
    split
    · rename_i refused
      rw [dispatch, if_pos refused]
      exact ⟨rfl, rfl, rfl, rfl⟩
    · exact ⟨notes.1, notes.2, rfl, n.newsOf?_note c⟩

/-- The same of the whole operation. -/
theorem operate_keeps (n : SimulatedNetwork) (op : NetworkOperation) :
    (n.operate op).refusal = n.refusal ∧ (n.operate op).delayed = n.delayed ∧
      (n.operate op).pending = (n.dispatch n.pending op).2 ∧
      newsOf? (n.operate op).interfaces = newsOf? n.interfaces := by
  obtain ⟨refusal, delayed, pending, news⟩ := n.prepare_keeps op
  rw [operate_eq, newsOf?_writeAll, writeAll_eq]
  exact ⟨refusal, delayed, pending, news⟩

/-- What operations write depends on the network only by whether it refuses and holds back. -/
theorem dispatch_congr (refusal : n.refusal = m.refusal) (delayed : n.delayed = m.delayed) :
    n.dispatch = m.dispatch := by
  funext held op
  cases op <;> simp only [dispatch, refusal, delayed]

theorem dispatchAll_congr (refusal : n.refusal = m.refusal) (delayed : n.delayed = m.delayed) :
    n.dispatchAll = m.dispatchAll := by
  funext held ops
  induction ops generalizing held with
  | nil => rfl
  | cons op ops ih => simp only [dispatchAll, dispatch_congr refusal delayed, ih]

/-- Commands do not change who listens. -/
theorem prepare_command (n : SimulatedNetwork) (c : NetworkCommand) :
    (n.prepare (.command c)).listeners = n.listeners ∧
      (n.prepare (.command c)).nextId = n.nextId := by
  rw [prepare]
  split
  · exact ⟨rfl, rfl⟩
  · cases c <;> exact ⟨rfl, rfl⟩

/-- A listener that is there stays there, and stays as it is unless its own subscription is
ended. -/
theorem listener?_prepare (found : n.listener? id = some l) (op : NetworkOperation) :
    (n.prepare op).listener? id =
      some (if op = .unsubscribe id then { l with live := false } else l) := by
  have named : l.id = id := id_of_listener? found
  cases op with
  | subscribe =>
    rw [prepare, listener?_subscribe, found, Option.some_or, if_neg (by simp)]
  | unsubscribe ended =>
    rw [prepare, listener?_unsubscribe, found, Option.map_some, named]
    by_cases this : id = ended
    · rw [if_pos this, if_pos (congrArg _ this.symm)]
    · rw [if_neg this, if_neg fun same => this (NetworkOperation.unsubscribe.inj same).symm]
  | setAddress | assignPending =>
    rw [if_neg (by simp)]
    exact found
  | command c =>
    rw [listener?, (n.prepare_command c).1, if_neg (by simp)]
    exact found

/-- What one operation does to a listener: the subscription is made or ended if that is what the
operation is for, and then it is told of what is written. -/
theorem listener?_operate (distinct : ((n.operate op).listeners.map (·.id)).Nodup)
    (id : SubscriptionId) :
    (n.operate op).listener? id = ((n.prepare op).listener? id).map
      (·.hear ((n.dispatch n.pending op).1.filterMap (newsOf? n.interfaces))) := by
  rw [operate_eq, ids_writeAll] at distinct
  have told := listeners_writeAll distinct (n.dispatch n.pending op).1
  rw [(n.prepare_keeps op).2.2.2, ← operate_eq] at told
  rw [listener?, told]
  exact (n.prepare op).listener?_map (fun l => l.id_hear _) id

/-! ## Any number of operations -/

/-- Subscriptions are numbered in their order, from zero on. -/
structure Numbered (n : SimulatedNetwork) (count : Nat) : Prop where
  next : n.nextId = UInt64.ofNat count
  ids : n.listeners.map (·.id) = (List.range count).map fun k => ⟨UInt64.ofNat k⟩

/-- Numbers do not come round again before there are so many. -/
theorem Numbered.distinct (numbered : n.Numbered count) (few : count ≤ 2 ^ 64) :
    (n.listeners.map (·.id)).Nodup := by
  rw [numbered.ids]
  refine List.Nodup.map_on (fun i inside j inside' same => ?_) List.nodup_range
  have numbers := congrArg (·.number.toNat) same
  have bound := List.mem_range.mp inside
  have bound' := List.mem_range.mp inside'
  rwa [UInt64.toNat_ofNat_of_lt' (Nat.lt_of_lt_of_le bound few),
    UInt64.toNat_ofNat_of_lt' (Nat.lt_of_lt_of_le bound' few)] at numbers

/-- What an operation adds to the subscriptions. -/
theorem ids_operate (n : SimulatedNetwork) (op : NetworkOperation) :
    (n.operate op).listeners.map (·.id) =
      n.listeners.map (·.id) ++ (if op = .subscribe then [n.subscribe.2] else []) := by
  rw [operate_eq, ids_writeAll]
  cases op with
  | subscribe => exact List.map_append
  | unsubscribe ended =>
    rw [if_neg (by simp), List.append_nil, prepare, unsubscribe, List.map_map]
    refine List.map_congr_left fun l _ => ?_
    rw [Function.comp_apply]
    split <;> rfl
  | setAddress | assignPending => exact (List.append_nil _).symm
  | command c =>
    rw [(n.prepare_command c).1, if_neg (by simp), List.append_nil]

/-- All subscriptions are those that operations have made. -/
theorem ids_operateAll (n : SimulatedNetwork) (ops : List NetworkOperation) :
    (n.operateAll ops).listeners.map (·.id) = n.listeners.map (·.id) ++ n.issued ops := by
  induction ops generalizing n with
  | nil => exact (List.append_nil _).symm
  | cons op ops ih =>
    refine (ih _).trans ?_
    rw [ids_operate, List.append_assoc]
    rfl

/-- Every subscription takes the next number. -/
theorem Numbered.operate (numbered : n.Numbered count) (op : NetworkOperation) :
    (n.operate op).Numbered (count + [op].count .subscribe) := by
  obtain ⟨next, ids⟩ := numbered
  have nextId : (n.operate op).nextId = (n.prepare op).nextId := by rw [operate_eq, writeAll_eq]
  cases op with
  | subscribe =>
    refine ⟨?_, ?_⟩
    · rw [nextId]
      show n.nextId + 1 = UInt64.ofNat (count + 1)
      rw [next, UInt64.ofNat_add]
      rfl
    · rw [ids_operate, ids, if_pos rfl]
      show _ = (List.range (count + 1)).map _
      rw [List.range_succ, List.map_append]
      show _ ++ [(⟨n.nextId⟩ : SubscriptionId)] = _
      rw [next]
      rfl
  | unsubscribe | setAddress | assignPending =>
    refine ⟨nextId.trans next, ?_⟩
    rw [ids_operate, ids, if_neg (by simp), List.append_nil]
    rfl
  | command c =>
    refine ⟨nextId.trans ((n.prepare_command c).2.trans next), ?_⟩
    rw [ids_operate, ids, if_neg (by simp), List.append_nil]
    rfl

/-- How many subscriptions there are after the first of some operations and after the others. -/
theorem count_cons (count : Nat) (op : NetworkOperation) (ops : List NetworkOperation) :
    count + (op :: ops).count .subscribe =
      count + [op].count .subscribe + ops.count .subscribe := by
  rw [Nat.add_assoc, ← List.count_append]
  rfl

theorem Numbered.operateAll (numbered : n.Numbered count) (ops : List NetworkOperation) :
    (n.operateAll ops).Numbered (count + ops.count .subscribe) := by
  induction ops generalizing n count with
  | nil => exact numbered
  | cons op ops ih =>
    rw [count_cons]
    exact ih (numbered.operate op)

/-- A new subscription is found by its name, which no other has. -/
theorem listener?_new (numbered : n.Numbered count) (few : count < 2 ^ 64) :
    n.subscribe.1.listener? n.subscribe.2 = some { id := n.subscribe.2 } := by
  have distinct := (numbered.operate .subscribe).distinct (Nat.succ_le_of_lt few)
  rw [ids_operate, if_pos rfl] at distinct
  have new : n.listener? n.subscribe.2 = none := by
    refine List.find?_eq_none.mpr fun l mem named => ?_
    have same : l.id = n.subscribe.2 := by simpa using named
    exact List.disjoint_of_nodup_append distinct (List.mem_map_of_mem mem)
      (List.mem_singleton.mpr same)
  rw [listener?_subscribe, new, Option.none_or]
  exact if_pos rfl

/-- What any number of operations leave alone, and what they make of the addresses that are held
back. -/
theorem operateAll_keeps (n : SimulatedNetwork) (ops : List NetworkOperation) :
    (n.operateAll ops).refusal = n.refusal ∧ (n.operateAll ops).delayed = n.delayed ∧
      (n.operateAll ops).pending = (n.dispatchAll n.pending ops).2 ∧
      newsOf? (n.operateAll ops).interfaces = newsOf? n.interfaces := by
  induction ops generalizing n with
  | nil => exact ⟨rfl, rfl, rfl, rfl⟩
  | cons op ops ih =>
    obtain ⟨refusal, delayed, pending, news⟩ := n.operate_keeps op
    obtain ⟨refusal', delayed', pending', news'⟩ := ih (n.operate op)
    rw [pending, dispatchAll_congr refusal delayed] at pending'
    exact ⟨refusal'.trans refusal, delayed'.trans delayed, pending', news'.trans news⟩

/-- What any number of operations do to a listener that is there: it is told of all that is written
until its subscription is ended. -/
theorem listener?_operateAll (numbered : n.Numbered count)
    (few : count + ops.count .subscribe ≤ 2 ^ 64) (found : n.listener? id = some l) :
    (n.operateAll ops).listener? id = some
      { l.hear ((n.dispatchAll n.pending (ops.takeWhile (· ≠ .unsubscribe id))).1.filterMap
          (newsOf? n.interfaces)) with
        live := l.live && !ops.contains (.unsubscribe id) } := by
  induction ops generalizing n l count with
  | nil => simpa [dispatchAll, operateAll] using found
  | cons op ops ih =>
    have after := numbered.operate op
    rw [count_cons] at few
    obtain ⟨refusal, delayed, pending, news⟩ := n.operate_keeps op
    have told := listener?_operate (after.distinct (by omega)) id
    rw [listener?_prepare found, Option.map_some] at told
    refine (ih after few told).trans (congrArg some ?_)
    rw [pending, news, dispatchAll_congr refusal delayed]
    -- From its end on the listener is told of nothing, whatever is still written.
    by_cases ended : op = .unsubscribe id
    · subst ended
      simp [Listener.hear, dispatchAll]
    · simp [ended, Ne.symm ended, dispatchAll, ← Listener.hear_append]

/-- What any number of operations do to the listener of a new subscription. -/
theorem listener?_subscribed (numbered : n.Numbered count) (ops : List NetworkOperation)
    (few : count + 1 + ops.count .subscribe ≤ 2 ^ 64) :
    let id := n.subscribe.2
    let during := ops.takeWhile (· ≠ .unsubscribe id)
    (n.operateAll (.subscribe :: ops)).listener? id = some
      { id
        live := !ops.contains (.unsubscribe id)
        inbox := (n.dispatchAll n.pending during).1.filterMap (newsOf? n.interfaces) } := by
  have found := listener?_new numbered (by omega)
  have told := listener?_operateAll (numbered.operate .subscribe) few found
  obtain ⟨refusal, delayed, pending, news⟩ := n.operate_keeps .subscribe
  rw [pending, news, dispatchAll_congr refusal delayed] at told
  exact told

/-! ## Other listeners -/

/-- Networks that are alike in all that decides what becomes of a listener. -/
structure Alike (id : SubscriptionId) (n m : SimulatedNetwork) : Prop where
  refusal : n.refusal = m.refusal
  delayed : n.delayed = m.delayed
  pending : n.pending = m.pending
  news : newsOf? n.interfaces = newsOf? m.interfaces
  nextId : n.nextId = m.nextId
  listener : n.listener? id = m.listener? id

/-- The end of another subscription is no matter of a listener. -/
theorem Alike.of_unsubscribe (n : SimulatedNetwork) (apart : id ≠ other) :
    Alike id (n.unsubscribe other) n where
  refusal := rfl
  delayed := rfl
  pending := rfl
  news := rfl
  nextId := rfl
  listener := by
    rw [listener?_unsubscribe]
    cases found : n.listener? id with
    | none => rfl
    | some l =>
      have named : l.id ≠ other := id_of_listener? found ▸ apart
      rw [Option.map_some, if_neg named]

/-- Networks that are alike stay so. -/
theorem Alike.operate (alike : Alike id n m) (op : NetworkOperation)
    (distinct : ((n.operate op).listeners.map (·.id)).Nodup)
    (distinct' : ((m.operate op).listeners.map (·.id)).Nodup) :
    Alike id (n.operate op) (m.operate op) := by
  obtain ⟨refusal, delayed, pending, news⟩ := n.operate_keeps op
  obtain ⟨refusal', delayed', pending', news'⟩ := m.operate_keeps op
  have same : n.dispatch = m.dispatch := dispatch_congr alike.refusal alike.delayed
  have prepared : (n.prepare op).nextId = (m.prepare op).nextId ∧
      (n.prepare op).listener? id = (m.prepare op).listener? id := by
    cases op with
    | subscribe =>
      refine ⟨congrArg (· + 1) alike.nextId, ?_⟩
      rw [prepare, prepare, listener?_subscribe, listener?_subscribe, alike.listener, alike.nextId]
    | unsubscribe ended =>
      refine ⟨alike.nextId, ?_⟩
      rw [prepare, prepare, listener?_unsubscribe, listener?_unsubscribe, alike.listener]
    | setAddress | assignPending => exact ⟨alike.nextId, alike.listener⟩
    | command c =>
      refine ⟨?_, ?_⟩
      · rw [(n.prepare_command c).2, (m.prepare_command c).2, alike.nextId]
      · rw [listener?, listener?, (n.prepare_command c).1, (m.prepare_command c).1]
        exact alike.listener
  refine ⟨refusal.trans (alike.refusal.trans refusal'.symm),
    delayed.trans (alike.delayed.trans delayed'.symm), ?_, news.trans (alike.news.trans news'.symm),
    ?_, ?_⟩
  · rw [pending, pending', same, alike.pending]
  · rw [operate_eq, writeAll_eq, operate_eq m, writeAll_eq (m.prepare op)]
    exact prepared.1
  · rw [listener?_operate distinct, listener?_operate distinct', same, alike.pending, alike.news,
      prepared.2]

theorem Alike.operateAll (alike : Alike id n m) (numbered : n.Numbered count)
    (numbered' : m.Numbered count) (ops : List NetworkOperation)
    (few : count + ops.count .subscribe ≤ 2 ^ 64) :
    Alike id (n.operateAll ops) (m.operateAll ops) := by
  induction ops generalizing n m count with
  | nil => exact alike
  | cons op ops ih =>
    rw [count_cons] at few
    have after := numbered.operate op
    have after' := numbered'.operate op
    have next := alike.operate op (after.distinct (by omega)) (after'.distinct (by omega))
    exact ih next after after' few

/-- A new network delivers each change once to whoever listens. Before there are more than `2 ^ 64`
of them, all subscriptions have different names. Whatever was done before a subscription and
whatever is done after it, its listener was told of the writes that were made between the
subscription and its end, each to an existing interface once, by its name and its kind, and of no
others; and it is still told of changes exactly if the subscription was not ended. What is written
is decided by the operations alone. The end of one subscription changes nothing for the listener of
another. -/
theorem each_change_once (interfaces : List Interface) (delayed : Bool) (refusal : Option String)
    (ops : List NetworkOperation) (few : ops.count .subscribe ≤ 2 ^ 64) :
    let n : SimulatedNetwork := { interfaces, delayed, refusal }
    (n.issued ops).Nodup ∧
    (n.operateAll ops).listeners.map (·.id) = n.issued ops ∧
    (∀ before after, ops = before ++ .subscribe :: after →
      let id := (n.operateAll before).subscribe.2
      let held := (n.dispatchAll [] before).2
      let during := after.takeWhile (· ≠ .unsubscribe id)
      (n.operateAll ops).listener? id = some
        { id
          live := !after.contains (.unsubscribe id)
          inbox := (n.dispatchAll held during).1.filterMap (newsOf? interfaces) }) ∧
    (∀ before after other, ops = before ++ .unsubscribe other :: after → ∀ id ≠ other,
      (n.operateAll ops).listener? id = (n.operateAll (before ++ after)).listener? id) := by
  intro n
  have new : n.Numbered 0 := ⟨rfl, rfl⟩
  have ids : (n.operateAll ops).listeners.map (·.id) = n.issued ops := n.ids_operateAll ops
  refine ⟨ids ▸ (new.operateAll ops).distinct (by omega), ids, ?_, ?_⟩
  · rintro before after rfl id held during
    rw [List.count_append, List.count_cons_self] at few
    obtain ⟨refusal, delayed, pending, news⟩ := n.operateAll_keeps before
    have told := listener?_subscribed (new.operateAll before) after (by omega)
    rw [← operateAll_append, pending, news, dispatchAll_congr refusal delayed] at told
    exact told
  · rintro before after other rfl id apart
    rw [List.count_append] at few
    have counted := new.operateAll before
    have alike := (Alike.of_unsubscribe (n.operateAll before) apart).operateAll
      (counted.operate (.unsubscribe other)) counted after (by simp at few ⊢; omega)
    rw [operateAll_append, operateAll_append]
    exact alike.listener

/-- Two listeners of a network with delay. The first has left when the address is let through that
was asked for before the second came, and neither is told of a name that no interface has. -/
theorem each_change_once_released :
    let n : SimulatedNetwork :=
      { interfaces := [{ name := "eth0", kind := .ethernet }, { name := "wlan0", kind := .wifi }]
        delayed := true }
    let before : List NetworkOperation := [.command (.dhcp "eth0")]
    let after : List NetworkOperation := [.setAddress "tun0" .loopback, .assignPending]
    let ops : List NetworkOperation :=
      .subscribe :: before ++ [.subscribe, .setAddress "wlan0" .any, .unsubscribe ⟨0⟩] ++ after
    ops.count .subscribe ≤ 2 ^ 64 ∧ (n.issued ops).Nodup ∧
    (n.operateAll ops).listener? ⟨0⟩ =
      some { id := ⟨0⟩, live := false, inbox := [⟨"wlan0", .wifi, .any⟩] } ∧
    (n.operateAll ops).listener? ⟨1⟩ =
      some { id := ⟨1⟩, inbox := [⟨"wlan0", .wifi, .any⟩, ⟨"eth0", .ethernet, lease⟩] } ∧
    (n.operateAll ops).listener? ⟨1⟩ =
      (n.operateAll (.subscribe :: before ++ [.subscribe, .setAddress "wlan0" .any] ++
        after)).listener? ⟨1⟩ := by
  intro n before after ops
  have few : ops.count .subscribe ≤ 2 ^ 64 := by decide
  obtain ⟨distinct, -, told, alone⟩ := each_change_once n.interfaces true none ops few
  have first := told []
    (before ++ [.subscribe, .setAddress "wlan0" .any, .unsubscribe ⟨0⟩] ++ after) rfl
  have second := told (.subscribe :: before)
    ([.setAddress "wlan0" .any, .unsubscribe ⟨0⟩] ++ after) rfl
  have others := alone (.subscribe :: before ++ [.subscribe, .setAddress "wlan0" .any]) after ⟨0⟩
    rfl ⟨1⟩ (by decide)
  exact ⟨few, distinct, first.trans (by decide), second.trans (by decide), others⟩

end SimulatedNetwork

end Uplink
