import Uplink.Proofs.Network.Simulated

/-!
# Addresses that are held back

A command to a simulated network makes its notes at once: which address was asked for last, which
name servers, and whether the address of its interface comes from DHCP. The address itself is
written at once as well, or held back until it is let through. In between nothing is lost and
nothing gets out of order, because notes and writes do not depend on one another: whichever comes
first, the network is the same afterwards, and so is what its listeners were told.

## Main definitions

- `NetworkCommand.assignment?`: the address that a command assigns, and the name it is for.
- `SimulatedNetwork.note`, `SimulatedNetwork.writeAll`: the two halves of what commands do.
- `SimulatedNetwork.newsOf?`: what there is to tell of a write.
- `SimulatedNetwork.performAll`: commands one after the other, with their results.
- `SimulatedNetwork.undelayed`: the network as it would be if it had held nothing back.

## Main results

- `SimulatedNetwork.setAddress_eq`: what a write changes, and whom it tells.
- `SimulatedNetwork.setAddress_note`: notes and writes commute.
- `SimulatedNetwork.undelayed_perform`: whether a command comes before or after addresses are let
  through makes no difference.
- `SimulatedNetwork.delay_only_delays`: with and without delay, commands do the same in the end.
-/

namespace Uplink

/-- The address that a command assigns, and the name of the interface that it is for. -/
def NetworkCommand.assignment? : NetworkCommand → Option (String × Address)
  | staticAddress name a _ _ => some (name, a)
  | dhcp name => some (name, SimulatedNetwork.lease)
  | staticServers .. => none
  | automaticServers _ => none

namespace SimulatedNetwork

variable {n : SimulatedNetwork} {name other : String} {a : Address} {c : NetworkCommand}

/-! ## What a write does -/

/-- What there is to tell of a write: the name and the kind of the first interface of the name that
is written to, and the new address. -/
def newsOf? (interfaces : List Interface) (w : String × Address) : Option AddressChange :=
  (interfaces.find? fun i => i.name == w.1).map fun i => ⟨i.name, i.kind, w.2⟩

/-- Tells a change to everybody of one name. -/
def post (change : AddressChange) (listeners : List Listener) (id : SubscriptionId) :
    List Listener :=
  listeners.map fun l => if l.id = id then { l with inbox := l.inbox ++ [change] } else l

/-- Tells a change to everybody who listens, one name after the other. -/
def tell (change : AddressChange) (listeners : List Listener) : List Listener :=
  ((listeners.filter (·.live)).map (·.id)).foldl (post change) listeners

/-- Two changes of the first interface of a name are the same if they are the same for it. -/
theorem modifyFirst_congr {f g : Interface → Interface} {interfaces : List Interface}
    (same : ∀ i, interfaces.find? (fun i => i.name == name) = some i → f i = g i) :
    modifyFirst name f interfaces = modifyFirst name g interfaces := by
  induction interfaces with
  | nil => rfl
  | cons i rest ih =>
    by_cases named : i.name = name
    · rw [modifyFirst, modifyFirst, if_pos named, if_pos named, same i (by simp [named])]
    · rw [modifyFirst, modifyFirst, if_neg named, if_neg named,
        ih fun j found => same j (by simpa [named] using found)]

theorem modifyFirst_id (name : String) (interfaces : List Interface) :
    modifyFirst name id interfaces = interfaces := by
  induction interfaces with
  | nil => rfl
  | cons i rest ih =>
    rw [modifyFirst, ih]
    exact ite_self _

/-- Changes of interfaces that keep their names commute if they do so on every interface. -/
theorem modifyFirst_comm {f g : Interface → Interface} (named : ∀ i, (f i).name = i.name)
    (named' : ∀ i, (g i).name = i.name) (comm : ∀ i, f (g i) = g (f i))
    (interfaces : List Interface) :
    modifyFirst name f (modifyFirst other g interfaces) =
      modifyFirst other g (modifyFirst name f interfaces) := by
  induction interfaces with
  | nil => rfl
  | cons i rest ih =>
    -- The interface that is looked at is changed by both, by one of them, or by none.
    by_cases mine : i.name = name
    · by_cases others : i.name = other
      · simp only [modifyFirst, if_pos mine, if_pos others, named, named', comm]
      · simp only [modifyFirst, if_pos mine, if_neg others, named]
    · by_cases others : i.name = other
      · simp only [modifyFirst, if_neg mine, if_pos others, named']
      · simp only [modifyFirst, if_neg mine, if_neg others, ih]

/-- A write finds the news in the interfaces. -/
theorem write_eq (n : SimulatedNetwork) (name : String) (a : Address) :
    n.write name a =
      ({ n with interfaces := modifyFirst name (fun i => { i with ipv4 := a }) n.interfaces },
        (newsOf? n.interfaces (name, a)).map fun change => (change, n.audience)) := by
  unfold write find? newsOf?
  cases found : n.interfaces.find? fun i => i.name == name with
  | none =>
    have kept : modifyFirst name (fun i => { i with ipv4 := a }) n.interfaces = n.interfaces := by
      rw [modifyFirst_congr (g := id) fun i first => by rw [found] at first; cases first]
      exact modifyFirst_id name n.interfaces
    rw [kept]
    rfl
  | some i =>
    have written : modifyFirst name (fun _ => { i with ipv4 := a }) n.interfaces =
        modifyFirst name (fun j => { j with ipv4 := a }) n.interfaces :=
      modifyFirst_congr fun j first => by rw [Option.some.inj (found.symm.trans first)]
    exact Prod.ext (congrArg (fun interfaces => { n with interfaces }) written) rfl

/-- A write changes the first interface of its name, and tells everybody who listens. -/
theorem setAddress_eq (n : SimulatedNetwork) (name : String) (a : Address) :
    n.setAddress name a =
      { n with
        interfaces := modifyFirst name (fun i => { i with ipv4 := a }) n.interfaces
        listeners := (newsOf? n.interfaces (name, a)).elim n.listeners (tell · n.listeners) } := by
  have told (change : AddressChange) (audience : List SubscriptionId) (n : SimulatedNetwork) :
      audience.foldl (fun n id => n.deliver change id) n =
        { n with listeners := audience.foldl (post change) n.listeners } := by
    induction audience generalizing n with
    | nil => rfl
    | cons id audience ih => exact ih (n.deliver change id)
  unfold setAddress
  rw [write_eq]
  cases newsOf? n.interfaces (name, a) with
  | none => rfl
  | some change => exact told _ _ _

/-! ## Notes -/

/-- What a command does to a network at once, whether or not addresses are held back. -/
def note (n : SimulatedNetwork) : NetworkCommand → SimulatedNetwork
  | .staticAddress name a _ _ => { n with staticApplied := some a }.setDhcp name false
  | .dhcp name => { n with dhcpApplied := true }.setDhcp name true
  | .staticServers _ servers => { n with servers }
  | .automaticServers _ => { n with servers := [] }

/-- Writes addresses one after the other. -/
def writeAll (n : SimulatedNetwork) (ws : List (String × Address)) : SimulatedNetwork :=
  ws.foldl (fun n (name, a) => n.setAddress name a) n

theorem assignPending_eq (n : SimulatedNetwork) :
    n.assignPending = { n with pending := [] }.writeAll n.pending := rfl

/-- A command makes its notes, and holds its address back or writes it. -/
theorem apply_eq (n : SimulatedNetwork) (c : NetworkCommand) :
    n.apply c =
      if n.delayed then { n.note c with pending := n.pending ++ c.assignment?.toList }
      else (n.note c).writeAll c.assignment?.toList := by
  cases c with
  | staticAddress | dhcp => rfl
  | staticServers | automaticServers =>
    simp only [apply, note, NetworkCommand.assignment?, Option.toList, List.append_nil]
    split <;> rfl

/-- A change of the first interface of a name that keeps names and kinds makes no other news. -/
theorem newsOf?_modifyFirst {f : Interface → Interface} (named : ∀ i, (f i).name = i.name)
    (kept : ∀ i, (f i).kind = i.kind) (interfaces : List Interface) :
    newsOf? (modifyFirst name f interfaces) = newsOf? interfaces := by
  funext w
  induction interfaces with
  | nil => rfl
  | cons i rest ih =>
    unfold newsOf? at ih ⊢
    rw [modifyFirst]
    split
    · rw [List.find?_cons, List.find?_cons, named]
      split
      · rw [Option.map_some, Option.map_some, named, kept]
      · rfl
    · rw [List.find?_cons, List.find?_cons]
      split
      · rfl
      · exact ih

theorem newsOf?_setDhcp (n : SimulatedNetwork) (name : String) (dhcp : Bool) :
    newsOf? (n.setDhcp name dhcp).interfaces = newsOf? n.interfaces :=
  newsOf?_modifyFirst (f := fun i => { i with dhcp }) (fun _ => rfl) (fun _ => rfl) n.interfaces

/-- Notes and writes commute. -/
theorem setAddress_note (n : SimulatedNetwork) (c : NetworkCommand) (name : String) (a : Address) :
    (n.note c).setAddress name a = (n.setAddress name a).note c := by
  have marked (n : SimulatedNetwork) (meant : String) (dhcp : Bool) :
      (n.setDhcp meant dhcp).setAddress name a = (n.setAddress name a).setDhcp meant dhcp := by
    rw [setAddress_eq, newsOf?_setDhcp, setAddress_eq]
    exact congrArg (fun interfaces => { n with
        interfaces
        listeners := (newsOf? n.interfaces (name, a)).elim n.listeners (tell · n.listeners) })
      (modifyFirst_comm (f := fun i => { i with ipv4 := a }) (g := fun i => { i with dhcp })
        (fun _ => rfl) (fun _ => rfl) (fun _ => rfl) n.interfaces)
  cases c with
  | staticAddress meant b mask gateway =>
    rw [note, marked, setAddress_eq, setAddress_eq]
    rfl
  | dhcp meant =>
    rw [note, marked, setAddress_eq, setAddress_eq]
    rfl
  | staticServers | automaticServers =>
    rw [note, setAddress_eq, setAddress_eq]
    rfl

theorem writeAll_note (n : SimulatedNetwork) (c : NetworkCommand) (ws : List (String × Address)) :
    (n.note c).writeAll ws = (n.writeAll ws).note c := by
  induction ws generalizing n with
  | nil => rfl
  | cons w ws ih => exact (congrArg (writeAll · ws) (n.setAddress_note c w.1 w.2)).trans (ih _)

/-! ## Commands with and without delay -/

/-- Commands one after the other, with their results. -/
def performAll (n : SimulatedNetwork) :
    List NetworkCommand → SimulatedNetwork × List (Except ErrorChain Unit)
  | [] => (n, [])
  | c :: cs =>
    let (n, result) := n.perform c
    let (n, results) := n.performAll cs
    (n, result :: results)

/-- The network as it would be if it had held nothing back. -/
def undelayed (n : SimulatedNetwork) : SimulatedNetwork :=
  { n with delayed := false, pending := [] }.writeAll n.pending

/-- What is held back, and whether anything is, is no matter of writes. -/
theorem writeAll_held (n : SimulatedNetwork) (delayed : Bool)
    (pending ws : List (String × Address)) :
    { n with delayed, pending }.writeAll ws = { n.writeAll ws with delayed, pending } := by
  induction ws generalizing n with
  | nil => rfl
  | cons w ws ih =>
    have first : { n with delayed, pending }.setAddress w.1 w.2 =
        { n.setAddress w.1 w.2 with delayed, pending } := by
      rw [setAddress_eq, setAddress_eq]
    exact (congrArg (writeAll · ws) first).trans (ih _)

/-- Writes change interfaces and tell listeners, and do nothing else. -/
theorem writeAll_eq (n : SimulatedNetwork) (ws : List (String × Address)) :
    n.writeAll ws = { n with
      interfaces := (n.writeAll ws).interfaces, listeners := (n.writeAll ws).listeners } := by
  induction ws generalizing n with
  | nil => rfl
  | cons w ws ih =>
    have later : n.writeAll (w :: ws) = (n.setAddress w.1 w.2).writeAll ws := rfl
    rw [later, ih, setAddress_eq]

theorem writeAll_append (n : SimulatedNetwork) (ws vs : List (String × Address)) :
    n.writeAll (ws ++ vs) = (n.writeAll ws).writeAll vs := List.foldl_append

/-- Letting everything through leaves the network that never held anything back, delay apart. -/
theorem assignPending_eq_undelayed (n : SimulatedNetwork) :
    n.assignPending = { n.undelayed with delayed := n.delayed } := by
  rw [undelayed, writeAll_held]
  exact n.writeAll_held n.delayed [] n.pending

theorem undelayed_of_idle (idle : n.pending = []) (delayed : Bool) :
    { n with delayed }.undelayed = { n with delayed := false } := by
  cases n
  cases idle
  rfl

theorem assignPending_of_idle (idle : n.pending = []) : n.assignPending = n := by
  cases n
  cases idle
  rfl

/-- Whether a command comes before or after the addresses are let through that were held back makes
no difference. -/
theorem undelayed_perform (delayed : n.delayed = true) (c : NetworkCommand) :
    (n.perform c).1.undelayed = (n.undelayed.perform c).1 ∧
      (n.perform c).2 = (n.undelayed.perform c).2 := by
  have refused : n.undelayed.refusal = n.refusal := by rw [undelayed, writeAll_eq]
  have prompt : n.undelayed.delayed = false := by rw [undelayed, writeAll_eq]
  unfold perform
  rw [refused]
  cases n.refusal with
  | some message => exact ⟨rfl, rfl⟩
  | none =>
    refine ⟨?_, rfl⟩
    have noted : { n.note c with delayed := false, pending := [] } =
        { n with delayed := false, pending := [] }.note c := by
      cases c <;> rfl
    -- What was held back was asked for earlier, so it is written first; the note has to pass it.
    calc (n.apply c).undelayed
        = { n.note c with delayed := false, pending := [] }.writeAll
            (n.pending ++ c.assignment?.toList) := by
          rw [apply_eq, if_pos delayed, undelayed]
      _ = (n.undelayed.note c).writeAll c.assignment?.toList := by
          rw [noted, writeAll_append, writeAll_note, undelayed]
      _ = n.undelayed.apply c := by
          rw [apply_eq, prompt, if_neg Bool.false_ne_true]

/-- What commands leave of a network that holds addresses back: it goes on doing so, and no address
is written and nobody is told of anything. -/
theorem perform_of_delayed (delayed : n.delayed = true) (c : NetworkCommand) :
    (n.perform c).1.delayed = true ∧ (n.perform c).1.listeners = n.listeners ∧
      (n.perform c).1.interfaces.map (·.ipv4) = n.interfaces.map (·.ipv4) := by
  unfold perform
  cases n.refusal with
  | some message => exact ⟨delayed, rfl, rfl⟩
  | none =>
    show (n.apply c).delayed = true ∧ (n.apply c).listeners = n.listeners ∧
      (n.apply c).interfaces.map (·.ipv4) = n.interfaces.map (·.ipv4)
    rw [apply_eq, if_pos delayed]
    cases c with
    | staticAddress name a mask gateway =>
      exact ⟨delayed, rfl,
        map_modifyFirst (f := fun i => { i with dhcp := false }) fun _ _ => rfl⟩
    | dhcp name =>
      exact ⟨delayed, rfl,
        map_modifyFirst (f := fun i => { i with dhcp := true }) fun _ _ => rfl⟩
    | staticServers | automaticServers => exact ⟨delayed, rfl, rfl⟩

theorem performAll_of_delayed (delayed : n.delayed = true) (cs : List NetworkCommand) :
    (n.performAll cs).1.delayed = true ∧ (n.performAll cs).1.listeners = n.listeners ∧
      (n.performAll cs).1.interfaces.map (·.ipv4) = n.interfaces.map (·.ipv4) := by
  induction cs generalizing n with
  | nil => exact ⟨delayed, rfl, rfl⟩
  | cons c cs ih =>
    obtain ⟨still, listeners, addresses⟩ := perform_of_delayed delayed c
    obtain ⟨delayed', listeners', addresses'⟩ := ih still
    exact ⟨delayed', listeners'.trans listeners, addresses'.trans addresses⟩

/-- The same for any number of commands. -/
theorem undelayed_performAll (delayed : n.delayed = true) (cs : List NetworkCommand) :
    (n.performAll cs).1.undelayed = (n.undelayed.performAll cs).1 ∧
      (n.performAll cs).2 = (n.undelayed.performAll cs).2 := by
  induction cs generalizing n with
  | nil => exact ⟨rfl, rfl⟩
  | cons c cs ih =>
    obtain ⟨network, result⟩ := undelayed_perform delayed c
    obtain ⟨networks, results⟩ := ih (perform_of_delayed delayed c).1
    rw [network] at networks results
    refine ⟨networks, ?_⟩
    show (n.perform c).2 :: ((n.perform c).1.performAll cs).2 =
      (n.undelayed.perform c).2 :: ((n.undelayed.perform c).1.performAll cs).2
    rw [result, results]

/-- Delay does nothing but delay. On a network that holds nothing back yet, any commands have the
same results with and without delay. Held back, no address is written and no listener is told of
anything; and once the addresses are let through, the interfaces, what was applied last, and what
every listener was told in its order are the same as without delay. Then nothing is left to be let
through. -/
theorem delay_only_delays (n : SimulatedNetwork) (idle : n.pending = [])
    (cs : List NetworkCommand) :
    let held := { n with delayed := true }.performAll cs
    let prompt := { n with delayed := false }.performAll cs
    let released := held.1.assignPending
    held.2 = prompt.2 ∧
    held.1.listeners = n.listeners ∧
    held.1.interfaces.map (·.ipv4) = n.interfaces.map (·.ipv4) ∧
    released.interfaces = prompt.1.interfaces ∧
    released.staticApplied = prompt.1.staticApplied ∧
    released.servers = prompt.1.servers ∧
    released.dhcpApplied = prompt.1.dhcpApplied ∧
    (∀ id, released.listener? id = prompt.1.listener? id) ∧
    released.assignPending = released := by
  intro held prompt released
  obtain ⟨networks, results⟩ := undelayed_performAll (n := { n with delayed := true }) rfl cs
  rw [undelayed_of_idle idle] at networks results
  obtain ⟨-, untold, unwritten⟩ := performAll_of_delayed (n := { n with delayed := true }) rfl cs
  have same : released = { prompt.1 with delayed := held.1.delayed } := by
    rw [← networks]
    exact held.1.assignPending_eq_undelayed
  have left : released.pending = [] := by
    show held.1.assignPending.pending = []
    rw [assignPending_eq, writeAll_eq]
  refine ⟨results, untold, unwritten, ?_, ?_, ?_, ?_, fun id => ?_, assignPending_of_idle left⟩ <;>
    rw [same]
  rfl

/-- Delay where two interfaces have one name, one command is about a name that no interface has, and
the listener has subscribed before the first command. -/
theorem delay_only_delays_repeated :
    let n : SimulatedNetwork :=
      { interfaces := [{ name := "eth0", kind := .ethernet }, { name := "eth0", kind := .wifi }]
        listeners := [{ id := ⟨0⟩ }]
        nextId := 1 }
    let cs : List NetworkCommand :=
      [.staticAddress "eth0" .loopback .any .any, .dhcp "eth1", .dhcp "eth0",
        .staticServers "eth0" [.broadcast]]
    let held := { n with delayed := true }.performAll cs
    let prompt := { n with delayed := false }.performAll cs
    n.pending = [] ∧ held.2 = prompt.2 ∧
    held.1.interfaces =
      [{ name := "eth0", kind := .ethernet, dhcp := true }, { name := "eth0", kind := .wifi }] ∧
    held.1.listener? ⟨0⟩ = some { id := ⟨0⟩ } ∧
    held.1.assignPending.interfaces = prompt.1.interfaces ∧
    held.1.assignPending.listener? ⟨0⟩ = prompt.1.listener? ⟨0⟩ ∧
    prompt.1.listener? ⟨0⟩ = some
      { id := ⟨0⟩
        inbox := [⟨"eth0", .ethernet, .loopback⟩, ⟨"eth0", .ethernet, lease⟩] } := by
  intro n cs held prompt
  obtain ⟨results, -, -, interfaces, -, -, -, told, -⟩ := delay_only_delays n rfl cs
  exact ⟨rfl, results, by decide, by decide, interfaces, told ⟨0⟩, by decide⟩

end SimulatedNetwork

end Uplink
