import Uplink.Proofs.Host.Run

/-!
# What listeners are told

A watcher samples: it compares each look with what it remembers of the looks before it. An address
that it remembers as the last one of a name is no news, whatever the machine has shown in between;
any other address that stays is news at the next look, and whoever is in the audience of that look
is told before the round ends. There is no second chance: what is no news at that look, or is told
to others only, is never told unless it changes again.

## Main definitions

- `Known.news`: what is news in a list of interfaces, each compared with all before it.
- `Watcher.memory?`, `Watcher.outstanding`: what a watcher remembers of its looks so far, and the
  calls that it has still to make for the last of them.
- `Watcher.Due`: a call is due within so many rounds.
- `Watcher.Settled`: nothing makes a call due.

## Main results

- `Watcher.due_step`: a call that is due is made, or goes on being due.
- `told_iff_due`: an address that stays is told within two rounds if a call is due, and else never.
- `told_of_unseen`: an address that was not the last one a watcher has looked at, and that stays, is
  told within two rounds.
- `untold_between_looks`: an address that comes back before the next look is told to nobody.
-/

namespace Uplink.Host

namespace Known

/-- What is news in a list of interfaces, each compared with all that was seen before it. -/
def news (k : Known) : List Interface → List Interface
  | [] => []
  | i :: rest => if k.isNews i then i :: (k.note i).news rest else (k.note i).news rest

@[simp] theorem news_nil (k : Known) : k.news [] = [] := rfl

theorem noteAll_cons (k : Known) (i : Interface) (rest : List Interface) :
    k.noteAll (i :: rest) = (k.note i).noteAll rest := rfl

/-- An address that is not the last one known of its name is news somewhere in every list that shows
it. -/
theorem exists_mem_news {k : Known} {interfaces : List Interface} {name : String} {a : Address}
    (unseen : k.last? name ≠ some a) (shown : ∃ i ∈ interfaces, i.name = name ∧ i.ipv4 = a) :
    ∃ i ∈ k.news interfaces, i.name = name ∧ i.ipv4 = a := by
  induction interfaces generalizing k with
  | nil =>
    obtain ⟨i, mem, -⟩ := shown
    cases mem
  | cons head rest ih =>
    -- Unless the first entry is the news itself, it leaves the name with something other than `a`:
    -- with its own address if it is of that name, else with what was known before.
    have later (unseen : (k.note head).last? name ≠ some a) (other : ¬ (head.name = name ∧
        head.ipv4 = a)) : ∃ i ∈ k.news (head :: rest), i.name = name ∧ i.ipv4 = a := by
      obtain ⟨i, mem, same⟩ := shown
      have inside : i ∈ rest := by
        rcases List.mem_cons.mp mem with rfl | inside
        · exact (other same).elim
        · exact inside
      obtain ⟨j, news, shows⟩ := ih unseen ⟨i, inside, same⟩
      refine ⟨j, ?_, shows⟩
      rw [Known.news]
      split
      · exact List.mem_cons_of_mem head news
      · exact news
    by_cases here : head.name = name
    · subst here
      by_cases same : head.ipv4 = a
      · subst same
        have new : k.isNews head = true := by simpa [isNews] using unseen
        exact ⟨head, by simp [Known.news, new], rfl, rfl⟩
      · exact later (by simpa using same) fun both => same both.2
    · exact later (by rwa [last?_note_of_ne k (Ne.symm here)]) fun both => here both.1

/-- What is last known of a name that is shown with one address only is that address, if it was
known before or is shown at all. -/
theorem last?_noteAll_of_only {k : Known} {interfaces : List Interface} {name : String}
    {a : Address} (only : ∀ i ∈ interfaces, i.name = name → i.ipv4 = a)
    (known : k.last? name = some a ∨ ∃ i ∈ interfaces, i.name = name ∧ i.ipv4 = a) :
    (k.noteAll interfaces).last? name = some a := by
  induction interfaces generalizing k with
  | nil =>
    rcases known with known | ⟨i, mem, -⟩
    · exact known
    · cases mem
  | cons head rest ih =>
    obtain ⟨first, others⟩ := List.forall_mem_cons.mp only
    rw [noteAll_cons]
    by_cases here : head.name = name
    · subst here
      exact ih others (.inl (by rw [last?_note_self, first rfl]))
    · refine ih others (known.imp ?_ ?_)
      · intro known
        rw [last?_note_of_ne k (Ne.symm here), known]
      · rintro ⟨i, mem, same⟩
        rcases List.mem_cons.mp mem with rfl | inside
        · exact (here same.1).elim
        · exact ⟨i, inside, same⟩

/-- An address that is last known of its name is no news, if nothing else is shown under it. -/
theorem name_ne_of_mem_news {k : Known} {interfaces : List Interface} {name : String} {a : Address}
    (known : k.last? name = some a) (only : ∀ i ∈ interfaces, i.name = name → i.ipv4 = a) :
    ∀ i ∈ k.news interfaces, i.name ≠ name := by
  induction interfaces generalizing k with
  | nil =>
    intro i mem
    cases mem
  | cons head rest ih =>
    obtain ⟨first, others⟩ := List.forall_mem_cons.mp only
    have known' : (k.note head).last? name = some a :=
      last?_noteAll_of_only (List.forall_mem_singleton.mpr first) (.inl known)
    rw [news]
    split
    · rename_i new
      refine List.forall_mem_cons.mpr ⟨?_, ih known' others⟩
      rintro rfl
      simp [isNews, known, first rfl] at new
    · exact ih known' others

end Known

namespace Watcher

/-- What a watcher remembers of its looks so far, once it has taken one. -/
def memory? : Watcher → Option Known
  | sleep known | enter known | look known _ => some known
  | tell known _ _ rest => some (known.noteAll rest)
  | start | stopped => none

/-- The calls that a watcher has still to make for its last look. -/
def outstanding : Watcher → List (SubscriptionId × AddressChange)
  | tell known audience calls rest =>
    calls ++ (known.news rest).flatMap fun i => audience.map fun id => (id, i.change)
  | _ => []

/-- Whether a watcher is between a look and the end of its round. -/
def isTelling : Watcher → Bool
  | tell .. => true
  | _ => false

/-- Whether a listener, if it stays, is in the audience of the next look. -/
def Attends (id : SubscriptionId) : Watcher → Prop
  | look _ audience => id ∈ audience
  | _ => True

instance (id : SubscriptionId) : (w : Watcher) → Decidable (w.Attends id)
  | look _ audience => inferInstanceAs (Decidable (id ∈ audience))
  | start | sleep _ | enter _ | tell .. | stopped => inferInstanceAs (Decidable True)

/-- Turning to an interface leaves what is outstanding as it was. -/
theorem outstanding_stepInterface (known : Known) (audience : List SubscriptionId) (i : Interface)
    (rest : List Interface) (t : ListenerTable) :
    (stepInterface known audience i rest t).next.outstanding =
      (tell known audience [] (i :: rest)).outstanding := by
  cases new : known.isNews i <;> simp [stepInterface, outstanding, Known.news, new]

/-- Turning to an interface leaves what is remembered as it was. -/
theorem memory?_stepInterface (known : Known) (audience : List SubscriptionId) (i : Interface)
    (rest : List Interface) (t : ListenerTable) :
    (stepInterface known audience i rest t).next.memory? =
      (tell known audience [] (i :: rest)).memory? := by
  cases new : known.isNews i <;> simp [stepInterface, memory?, Known.noteAll_cons, new]

theorem isTelling_stepInterface (known : Known) (audience : List SubscriptionId) (i : Interface)
    (rest : List Interface) (t : ListenerTable) :
    (stepInterface known audience i rest t).next.isTelling = true := by
  cases new : known.isNews i <;> simp [stepInterface, isTelling, new]

/-- Listener `id` is due to be told within so many rounds that `name` has the address `a`. -/
inductive Due (id : SubscriptionId) (name : String) (a : Address) (w : Watcher) : Nat → Prop
  /-- The call is outstanding. -/
  | underway {b : Nat} {ch : AddressChange} (call : (id, ch) ∈ w.outstanding)
      (same : ch.name = name) (new : ch.ipv4 = a) : Due id name a w (b + 1)
  /-- The address is not known before the next look, and the listener is in its audience. -/
  | ahead {b : Nat} {k : Known} (memory : w.memory? = some k) (unseen : k.last? name ≠ some a)
      (attends : w.Attends id) (rested : w.isTelling = false) : Due id name a w (b + 1)
  /-- The same, but a round is still to be ended before. -/
  | behind {b : Nat} {k : Known} (memory : w.memory? = some k) (unseen : k.last? name ≠ some a)
      (telling : w.isTelling = true) : Due id name a w (b + 2)

/-- A call that is due is made by the next step, or goes on being due; only the end of a round takes
one off the rounds that are left. -/
theorem due_step {id : SubscriptionId} {name : String} {a : Address} {w : Watcher} {b : Nat}
    {t : ListenerTable} {seen : List Interface} (due : w.Due id name a b)
    (listens : id ∈ t.subscribers) (shown : ∃ i ∈ seen, i.name = name ∧ i.ipv4 = a) :
    (∃ ch, (w.step t seen).call = some (id, ch) ∧ ch.name = name ∧ ch.ipv4 = a) ∨
      (w.step t seen).next.Due id name a (if w.endsRound then b - 1 else b) := by
  cases w with
  | start | stopped =>
    cases due with
    | underway call => cases call
    | ahead memory => cases memory
    | behind memory => cases memory
  | sleep known =>
    right
    cases due with
    | underway call => cases call
    | ahead memory unseen => exact .ahead memory unseen trivial rfl
    | behind _ _ telling => cases telling
  | enter known =>
    right
    have occupied : t.subscribers.isEmpty = false := by
      simpa using List.ne_nil_of_mem listens
    simp only [step, stepEnter, occupied, Bool.false_eq_true, if_false]
    cases due with
    | underway call => cases call
    | ahead memory unseen => exact .ahead memory unseen listens rfl
    | behind _ _ telling => cases telling
  | look known audience =>
    -- Here what is ahead gets under way: it has to be news, and the listener in the audience.
    right
    cases due with
    | underway call => cases call
    | behind _ _ telling => cases telling
    | ahead memory unseen attends =>
      cases memory
      obtain ⟨i, news, same, new⟩ := Known.exists_mem_news unseen shown
      have call : (id, i.change) ∈ (tell known audience [] seen).outstanding :=
        List.mem_flatMap.mpr ⟨i, news, List.mem_map.mpr ⟨id, attends, rfl⟩⟩
      exact .underway call same new
  | tell known audience calls rest =>
    cases calls with
    | cons call calls =>
      cases due with
      | underway outstanding same new =>
        rcases List.mem_cons.mp outstanding with rfl | later
        · exact .inl ⟨_, rfl, same, new⟩
        · exact .inr (.underway later same new)
      | ahead _ _ _ rested => cases rested
      | behind memory unseen => exact .inr (.behind memory unseen rfl)
    | nil =>
      right
      cases rest with
      | cons i rest =>
        cases due with
        | underway outstanding same new =>
          rw [← outstanding_stepInterface known audience i rest t] at outstanding
          exact .underway outstanding same new
        | ahead _ _ _ rested => cases rested
        | behind memory unseen =>
          rw [← memory?_stepInterface known audience i rest t] at memory
          exact .behind memory unseen (isTelling_stepInterface known audience i rest t)
      | nil =>
        cases due with
        | underway outstanding => cases outstanding
        | ahead _ _ _ rested => cases rested
        | behind memory unseen => exact .ahead memory unseen trivial rfl

/-- Nothing makes a watcher tell listener `id` that `name` has the address `a`, as long as no other
address is shown under that name. -/
structure Settled (id : SubscriptionId) (name : String) (a : Address) (w : Watcher) : Prop where
  /-- No such call is outstanding. -/
  quiet : ∀ ch, (id, ch) ∈ w.outstanding → ¬ (ch.name = name ∧ ch.ipv4 = a)
  /-- The address is known before the next look, or the listener is not in its audience. -/
  known : w.Attends id → ∀ k, w.memory? = some k → k.last? name = some a

/-- A call is due within two rounds, or nothing makes it due. -/
theorem due_or_settled (id : SubscriptionId) (name : String) (a : Address) (w : Watcher) :
    w.Due id name a 2 ∨ w.Settled id name a := by
  by_cases call : ∃ ch, (id, ch) ∈ w.outstanding ∧ ch.name = name ∧ ch.ipv4 = a
  · obtain ⟨ch, outstanding, same, new⟩ := call
    exact .inl (.underway outstanding same new)
  · have quiet : ∀ ch, (id, ch) ∈ w.outstanding → ¬ (ch.name = name ∧ ch.ipv4 = a) :=
      fun ch outstanding same => call ⟨ch, outstanding, same⟩
    by_cases missing : w.Attends id ∧ ∃ k, w.memory? = some k ∧ k.last? name ≠ some a
    · obtain ⟨attends, k, memory, unseen⟩ := missing
      cases telling : w.isTelling with
      | true => exact .inl (.behind memory unseen telling)
      | false => exact .inl (.ahead memory unseen attends telling)
    · refine .inr ⟨quiet, fun attends k memory => ?_⟩
      by_contra unseen
      exact missing ⟨attends, k, memory, unseen⟩

/-- A settled watcher stays settled and makes no such call. -/
theorem settled_step {id : SubscriptionId} {name : String} {a : Address} {w : Watcher}
    {t : ListenerTable} {seen : List Interface} (settled : w.Settled id name a)
    (shown : ∃ i ∈ seen, i.name = name ∧ i.ipv4 = a)
    (only : ∀ i ∈ seen, i.name = name → i.ipv4 = a) :
    (w.step t seen).next.Settled id name a ∧
      ∀ ch, (w.step t seen).call = some (id, ch) → ¬ (ch.name = name ∧ ch.ipv4 = a) := by
  obtain ⟨quiet, known⟩ := settled
  cases w with
  | start =>
    refine ⟨⟨fun ch call => (by cases call), fun _ k memory => ?_⟩, fun ch call => (by cases call)⟩
    cases memory
    exact Known.last?_noteAll_of_only only (.inr shown)
  | stopped => exact ⟨⟨quiet, known⟩, fun ch call => (by cases call)⟩
  | sleep k => exact ⟨⟨quiet, known⟩, fun ch call => (by cases call)⟩
  | enter k =>
    simp only [step, stepEnter]
    split
    · exact ⟨⟨quiet, fun _ k memory => (by cases memory)⟩, fun ch call => (by cases call)⟩
    · exact ⟨⟨quiet, fun _ => known trivial⟩, fun ch call => (by cases call)⟩
  | look k audience =>
    refine ⟨⟨fun ch call same => ?_, fun _ k' memory => ?_⟩, fun ch call => (by cases call)⟩
    · obtain ⟨i, news, told⟩ := List.mem_flatMap.mp call
      obtain ⟨_, attends, made⟩ := List.mem_map.mp told
      cases made
      exact Known.name_ne_of_mem_news (known attends k rfl) only i news same.1
    · cases memory
      exact Known.last?_noteAll_of_only only (.inr shown)
  | tell k audience calls rest =>
    cases calls with
    | cons call calls =>
      refine ⟨⟨fun ch later => quiet ch (List.mem_cons_of_mem call later), known⟩, ?_⟩
      intro ch made
      cases made
      exact quiet ch List.mem_cons_self
    | nil =>
      cases rest with
      | cons i rest =>
        refine ⟨⟨?_, fun _ => ?_⟩, ?_⟩
        · simp only [step, outstanding_stepInterface]
          exact quiet
        · simp only [step, memory?_stepInterface]
          exact known trivial
        · simp only [step, stepInterface]
          split <;> exact fun ch call => (by cases call)
      | nil => exact ⟨⟨fun ch call => (by cases call), known⟩, fun ch call => (by cases call)⟩

end Watcher

namespace System

variable {p : Probes} {s s' : System} {id : SubscriptionId} {name : String} {a : Address}

/-- An interface shows this address under this name at this moment. -/
def Shows (p : Probes) (s : System) (name : String) (a : Address) : Prop :=
  ∃ i ∈ s.seen p, i.name = name ∧ i.ipv4 = a

instance (s : System) (name : String) (a : Address) : Decidable (s.Shows p name a) :=
  inferInstanceAs (Decidable (∃ i ∈ s.seen p, i.name = name ∧ i.ipv4 = a))

/-- A call that is due within so many rounds of a watcher is made before it has completed them, if
the address and the listener stay. -/
theorem told_of_due {es : List Event} {i b : Nat} {w : Watcher} (present : s.watchers[i]? = some w)
    (due : w.Due id name a b) (run : s.run? p es = some s')
    (stays : ∀ m ∈ s.states p es, m.Listens id ∧ m.Shows p name a) (enough : b ≤ rounds i es) :
    ∃ later ch, s'.told = s.told ++ later ∧ (id, ch) ∈ later ∧ ch.name = name ∧ ch.ipv4 = a := by
  induction es generalizing s w b with
  | nil =>
    cases Nat.le_zero.mp enough
    cases due
  | cons e es ih =>
    obtain ⟨next, after, rest⟩ := runFrom?_cons_eq_some.mp run
    obtain ⟨new, told⟩ := told_after? after
    obtain ⟨listens, shown⟩ := stays s (by simp [statesFrom])
    have still : ∀ m ∈ next.states p es, m.Listens id ∧ m.Shows p name a :=
      fun m mem => stays m (by simp [statesFrom, after, mem])
    -- What is due after this event is made in the rest of the run; what it tells comes before.
    have on {v : Watcher} {c : Nat} (there : next.watchers[i]? = some v) (due : v.Due id name a c)
        (enough : c ≤ rounds i es) : ∃ later ch, s'.told = s.told ++ later ∧ (id, ch) ∈ later ∧
          ch.name = name ∧ ch.ipv4 = a := by
      obtain ⟨later, ch, more, mem, same⟩ := ih there due rest still enough
      refine ⟨new ++ later, ch, ?_, List.mem_append_right new mem, same⟩
      rw [more, ← told, List.append_assoc]
    by_cases own : ∃ v, e = .watch i v
    · obtain ⟨v, rfl⟩ := own
      obtain ⟨there, rfl⟩ := after?_watch_eq_some.mp after
      cases present.symm.trans there
      rcases Watcher.due_step due listens shown with ⟨ch, call, same⟩ | due
      · obtain ⟨more, grown⟩ := told_run? rest
        refine ⟨new ++ more, ch, ?_, List.mem_append_left more ?_, same⟩
        · rw [← grown, ← told, List.append_assoc]
        · rw [told_advance, List.append_cancel_left_eq, call] at told
          simp [told]
      · have here := (List.getElem?_eq_some_iff.mp present).1
        refine on (by rw [watchers_advance, List.getElem?_set_self here]) due ?_
        rw [rounds_watch] at enough
        split at enough
        · rename_i ends
          rw [if_pos ends]
          omega
        · rename_i goes
          rw [if_neg goes]
          exact enough
    · have other : ∀ v, e ≠ .watch i v := fun v same => own ⟨v, same⟩
      rw [rounds_of_ne other] at enough
      exact on (watcher_after? present other after) due enough

/-- An interface shows this address under this name at this moment, and none shows another. -/
def ShowsOnly (p : Probes) (s : System) (name : String) (a : Address) : Prop :=
  s.Shows p name a ∧ ∀ i ∈ s.seen p, i.name = name → i.ipv4 = a

/-- Where all watchers are settled, an event leaves them settled and tells nobody. -/
theorem settled_after? {e : Event} (settled : ∀ w ∈ s.watchers, w.Settled id name a)
    (only : s.ShowsOnly p name a) (after : s.after? p e = some s') :
    (∀ w ∈ s'.watchers, w.Settled id name a) ∧ ∃ new, s'.told = s.told ++ new ∧
      ∀ ch, (id, ch) ∈ new → ¬ (ch.name = name ∧ ch.ipv4 = a) := by
  have silent : ∃ new, s.told = s.told ++ new ∧
      ∀ ch, (id, ch) ∈ new → ¬ (ch.name = name ∧ ch.ipv4 = a) :=
    ⟨[], (List.append_nil _).symm, fun ch call => (by cases call)⟩
  cases e with
  | watch i w =>
    obtain ⟨present, rfl⟩ := after?_watch_eq_some.mp after
    obtain ⟨next, quiet⟩ := Watcher.settled_step (settled w (List.mem_of_getElem? present))
      only.1 only.2 (t := s.network.table)
    refine ⟨fun v mem => ?_, _, told_advance s i w, fun ch call => ?_⟩
    · rcases List.mem_or_eq_of_mem_set mem with old | rfl
      · exact settled v old
      · exact next
    · exact quiet ch (Option.mem_toList.mp call)
  | register drawn start =>
    obtain ⟨-, rfl⟩ := after?_register_eq_some.mp after
    refine ⟨?_, silent⟩
    -- A watcher that is only started will know the address from its first look.
    have new : Watcher.start.Settled id name a :=
      ⟨fun ch call => (by cases call), fun _ k memory => (by cases memory)⟩
    simp only [register]
    split
    · exact forall_mem_concat settled new
    · exact settled
  | draw | unsubscribe | change | command =>
    cases after
    exact ⟨settled, silent⟩

/-- Where all watchers are settled, nobody is told however long the run is: what was missed before
is not made up for. -/
theorem untold_of_settled {es : List Event} (settled : ∀ w ∈ s.watchers, w.Settled id name a)
    (run : s.run? p es = some s') (stays : ∀ m ∈ s.states p es, m.ShowsOnly p name a) :
    ∃ new, s'.told = s.told ++ new ∧ ∀ ch, (id, ch) ∈ new → ¬ (ch.name = name ∧ ch.ipv4 = a) := by
  induction es generalizing s with
  | nil =>
    cases run
    exact ⟨[], (List.append_nil _).symm, fun ch call => (by cases call)⟩
  | cons e es ih =>
    obtain ⟨next, after, rest⟩ := runFrom?_cons_eq_some.mp run
    obtain ⟨settled, new, told, quiet⟩ :=
      settled_after? settled (stays s (by simp [statesFrom])) after
    obtain ⟨more, grown, still⟩ :=
      ih settled rest fun m mem => stays m (by simp [statesFrom, after, mem])
    refine ⟨new ++ more, by rw [grown, told, List.append_assoc], fun ch call => ?_⟩
    rcases List.mem_append.mp call with first | later
    · exact quiet ch first
    · exact still ch later

/-- Where the other watchers are settled, as stopped ones are, a call that is due within two rounds
is the only reason why a listener is told of an address that stays. -/
theorem told_iff_due {es : List Event} {i : Nat} {w : Watcher} (present : s.watchers[i]? = some w)
    (others : ∀ j v, s.watchers[j]? = some v → j ≠ i → v.Settled id name a)
    (run : s.run? p es = some s')
    (stays : ∀ m ∈ s.states p es, m.Listens id ∧ m.ShowsOnly p name a) (enough : 2 ≤ rounds i es) :
    (∃ later ch, s'.told = s.told ++ later ∧ (id, ch) ∈ later ∧ ch.name = name ∧ ch.ipv4 = a) ↔
      w.Due id name a 2 := by
  constructor
  · rintro ⟨later, ch, told, mem, same⟩
    refine (w.due_or_settled id name a).resolve_right fun settled => ?_
    have all (v : Watcher) (there : v ∈ s.watchers) : v.Settled id name a := by
      obtain ⟨j, found⟩ := List.getElem?_of_mem there
      by_cases here : j = i
      · subst here
        cases present.symm.trans found
        exact settled
      · exact others j v found here
    obtain ⟨new, grown, quiet⟩ := untold_of_settled all run fun m mem => (stays m mem).2
    cases List.append_cancel_left (told.symm.trans grown)
    exact quiet ch mem same
  · intro due
    exact told_of_due present due run (fun m mem => ⟨(stays m mem).1, (stays m mem).2.1⟩) enough

/-- An address that a watcher does not remember as the last one of its name, and that stays, is told
within two rounds to every listener that stays too. The watcher must have taken its first look; and
if it has just seen who listens and is about to look, the listener must be among those. -/
theorem told_of_unseen {es : List Event} {i : Nat} {w : Watcher} {k : Known}
    (present : s.watchers[i]? = some w) (memory : w.memory? = some k)
    (unseen : k.last? name ≠ some a) (attends : w.Attends id) (run : s.run? p es = some s')
    (stays : ∀ m ∈ s.states p es, m.Listens id ∧ m.Shows p name a) (enough : 2 ≤ rounds i es) :
    ∃ later ch, s'.told = s.told ++ later ∧ (id, ch) ∈ later ∧ ch.name = name ∧ ch.ipv4 = a := by
  cases telling : w.isTelling with
  | true => exact told_of_due present (.behind memory unseen telling) run stays enough
  | false => exact told_of_due present (.ahead memory unseen attends telling) run stays enough

/-- The loopback interface without an address. -/
def bareLoopback : MachineInterface := ⟨"lo", 9, true, []⟩

/-- The loopback interface with its address. -/
def loopback : MachineInterface := ⟨"lo", 9, true, [.v4 ⟨127, 0, 0, 1⟩]⟩

/-- Somebody subscribes, and the watcher takes its first look. -/
def subscribed : List Event :=
  [.draw, .register ⟨0⟩ (.ok ()), .watch 0 .start]

/-- What is reported of it then. -/
def loopbackInterface : Interface := ⟨"lo", .loopback, .loopback, false⟩

/-- What a watcher that remembers the loopback address knows. -/
def loopbackKnown : Known := [("lo", .loopback)]

/-- A round in which the loopback address is no news. -/
def quietRound : List Event :=
  [.watch 0 (.sleep loopbackKnown), .watch 0 (.enter loopbackKnown),
    .watch 0 (.look loopbackKnown [⟨0⟩]),
    .watch 0 (.tell loopbackKnown [⟨0⟩] [] [loopbackInterface]),
    .watch 0 (.tell loopbackKnown [⟨0⟩] [] [])]

/-- A round in which it is. -/
def newsRound : List Event :=
  [.watch 0 (.sleep [("lo", .any)]), .watch 0 (.enter [("lo", .any)]),
    .watch 0 (.look [("lo", .any)] [⟨0⟩]),
    .watch 0 (.tell [("lo", .any)] [⟨0⟩] [] [loopbackInterface]),
    .watch 0 (.tell loopbackKnown [⟨0⟩] [(⟨0⟩, loopbackInterface.change)] []),
    .watch 0 (.tell loopbackKnown [⟨0⟩] [] [])]

/-- One listener, and a watcher at rest. -/
def listening (known : Known) (machine : List MachineInterface) : System :=
  { network := { table := { subscribers := [⟨0⟩], running := true }, nextId := 1 }
    machine
    watchers := [.sleep known] }

/-- An address that comes up after the first look is told. -/
theorem told_of_unseen_loopback :
    (new .observe [bareLoopback]).run? .blind (subscribed ++ [.change [loopback]]) =
        some (listening [("lo", .any)] [loopback]) ∧
      ∃ s', (listening [("lo", .any)] [loopback]).run? .blind (newsRound ++ quietRound) = some s' ∧
        ∃ ch, (⟨0⟩, ch) ∈ s'.told ∧ ch.name = "lo" ∧ ch.ipv4 = .loopback := by
  refine ⟨rfl, _, rfl, ?_⟩
  obtain ⟨later, ch, told, mem, same⟩ :=
    @told_of_unseen .blind (listening [("lo", .any)] [loopback]) _ ⟨0⟩ "lo" .loopback
      (newsRound ++ quietRound) 0 (.sleep [("lo", .any)]) [("lo", .any)] rfl rfl (by decide) trivial
      rfl (by decide) (by decide)
  exact ⟨ch, told ▸ List.mem_append_right _ mem, same⟩

/-- An address that goes and comes back between two looks is told to nobody, however many rounds
follow. -/
theorem untold_between_looks :
    ¬ ∀ (p : Probes) (mode : HostMode) (before : List MachineInterface) (es fs : List Event)
      (s s' : System) (machine : List MachineInterface) (id : SubscriptionId) (name : String)
      (a : Address) (i : Nat), (new mode before).run? p es = some s → s.Listens id →
        ¬ s.Shows p name a → run? p { s with machine } fs = some s' →
        (∀ m ∈ states p { s with machine } fs, m.Listens id ∧ m.Shows p name a) →
        2 ≤ rounds i fs → ∃ ch, (id, ch) ∈ s'.told ∧ ch.name = name ∧ ch.ipv4 = a := by
  intro always
  obtain ⟨ch, told, -⟩ := always .blind .observe [loopback] (subscribed ++ [.change [bareLoopback]])
    (quietRound ++ quietRound) _ _ [loopback] ⟨0⟩ "lo" .loopback 0 rfl (by decide) (by decide) rfl
    (by decide) (by decide)
  cases told

end System

end Uplink.Host
