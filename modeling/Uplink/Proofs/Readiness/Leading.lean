import Uplink.Proofs.Readiness.Deployment

/-!
# The caller that was admitted

Commands are given by the admitted caller alone. What it asks for follows from its place, so that
statements about the commands of a whole run come down to the turns of one thread. The others are
not without effect: a worker may settle the signal. But they leave the configuration that was
applied alone, and nobody takes the signal back.

## Main definitions

- `commandsIn`, `doneIn`: the commands that are asked for during a run, and those that succeed.
- `System.Led`: the admitted caller is the only thread that gives commands.
- `Cells.Spared`: what the other threads leave of the cells.

## Main results

- `System.Led.run?`: what the turns of the caller keep of the cells, of its place and of the
  commands, and the others leave alone, a run keeps.
-/

namespace Uplink.Readiness

variable {cfg : Config} {N : Type}

/-- The command that a request asks for, if it does. -/
def Request.command? : Request → Option NetworkCommand
  | command c => some c
  | _ => none

/-- The command that an event asks for, if it does. -/
def Event.command? : Event cfg → Option NetworkCommand
  | turn _ t _ => (t.request cfg).command?
  | enter _ => none

/-- The command that a request asked for, if it did and the reply tells of success. -/
def Request.done? : (q : Request) → q.Reply → Option NetworkCommand
  | command c, .ok () => some c
  | _, _ => none

/-- The command that an event carries out, if it does. -/
def Event.done? : Event cfg → Option NetworkCommand
  | turn _ t reply => (t.request cfg).done? reply
  | enter _ => none

/-- The commands that are asked for during these events. -/
def commandsIn (es : List (Event cfg)) : List NetworkCommand := es.filterMap Event.command?

/-- The commands that are carried out during these events. -/
def doneIn (es : List (Event cfg)) : List NetworkCommand := es.filterMap Event.done?

/-- A turn more is no reset. -/
theorem Calm.insert {es fs : List (Event cfg)} (calm : Calm (es ++ fs)) (i : Nat) (t : Thread)
    (reply : (t.request cfg).Reply) : Calm (es ++ [.turn i t reply] ++ fs) := by
  intro e mem
  simp only [List.mem_append, List.mem_singleton] at mem
  rcases mem with (old | rfl) | later
  · exact calm e (List.mem_append_left fs old)
  · rfl
  · exact calm e (List.mem_append_right es later)

theorem filterMap_cons_toList {f : Event cfg → Option N} (e : Event cfg) (es : List (Event cfg)) :
    (e :: es).filterMap f = (f e).toList ++ es.filterMap f := by
  cases here : f e <;> simp [here]

theorem commandsIn_append (es fs : List (Event cfg)) :
    commandsIn (es ++ fs) = commandsIn es ++ commandsIn fs := List.filterMap_append

theorem Request.command?_eq_none {q : Request} (other : ∀ c, q ≠ .command c) :
    q.command? = none := by
  cases q with
  | command c => exact (other c rfl).elim
  | _ => rfl

theorem Request.done?_eq_none {q : Request} (silent : q.command? = none) (reply : q.Reply) :
    q.done? reply = none := by
  cases q with
  | command c => cases silent
  | _ => rfl

theorem Event.done?_eq_none (e : Event cfg) (silent : e.command? = none) : e.done? = none := by
  cases e with
  | enter n => rfl
  | turn i t reply => exact Request.done?_eq_none silent reply

theorem doneIn_append (es fs : List (Event cfg)) : doneIn (es ++ fs) = doneIn es ++ doneIn fs :=
  List.filterMap_append

/-- Where no command is asked for, none is carried out. -/
theorem doneIn_eq_nil {es : List (Event cfg)} (silent : commandsIn es = []) : doneIn es = [] :=
  List.filterMap_eq_nil_iff.mpr fun e mem =>
    e.done?_eq_none (List.filterMap_eq_nil_iff.mp silent e mem)

/-! ## What others leave alone -/

/-- What the other threads leave of the cells: the claim and the configuration that was applied, a
signal that tells something, and that there is a fault. -/
structure Cells.Spared (c d : Cells) : Prop where
  claimed : d.claimed = c.claimed
  applied : d.applied = c.applied
  settled : c.ready ≠ .pending → d.ready ≠ .pending
  fault : c.fault.isSome = true → d.fault.isSome = true

theorem Cells.Spared.refl (c : Cells) : c.Spared c := ⟨rfl, rfl, id, id⟩

/-- After the last write of an ending the signal tells something. -/
theorem Ending.settle_ne_pending (e : Ending) (r : Signal) : e.settle r ≠ .pending := by
  cases e <;> cases r <;> nofun

theorem Worker.spared_step (c : Cells) (w : Worker) (reply : (w.request cfg).Reply) :
    c.Spared (w.step cfg c reply).cells := by
  rw [w.cells_step]
  cases w with
  | conclude j e stage =>
    cases stage with
    | settle => exact ⟨rfl, rfl, fun _ => e.settle_ne_pending c.ready, id⟩
    | keepFault =>
      cases e with
      | failed f => exact ⟨rfl, rfl, id, fun _ => rfl⟩
      | _ => exact ⟨rfl, rfl, id, id⟩
    | _ => exact ⟨rfl, rfl, id, id⟩
  | _ => exact ⟨rfl, rfl, id, id⟩

/-! ## The thread that gives commands -/

/-- The `i`-th thread is the caller that was admitted, and every other one is idle or a worker. -/
structure System.Led (s : System) (i : Nat) (t : Caller) : Prop where
  claimed : s.cells.claimed = true
  admitted : t.isAdmitted = true
  own : s.threads[i]? = some (.caller t)
  others : ∀ j u, j ≠ i → s.threads[j]? = some u → u.isIdle = true ∨ ∃ w, u = .worker w

namespace System.Led

variable {s s' : System} {i : Nat} {t : Caller} {e : Event cfg} {es : List (Event cfg)}

/-- The turn in which a caller is admitted. -/
theorem of_claim {setup : Setup} (unclaimed : s.Unclaimed)
    (present : s.threads[i]? = some (.caller (.claim setup))) :
    (s.advance cfg i (.caller (.claim setup)) ()).Led i
      ((Caller.claim setup).step cfg s.cells ()).next := by
  have holds := Thread.holds_claim unclaimed.untouched cfg setup ()
  refine ⟨holds.claimed, ?_, System.getElem?_advance_self present, fun j u other found => ?_⟩
  · simp only [Caller.step, Caller.stepClaim, unclaimed.untouched.free]
    cases setup.mode <;> rfl
  · rcases System.getElem?_advance found with ⟨same, -⟩ | ⟨-, old⟩ | ⟨-, w, started, -⟩
    · exact (other same).elim
    · exact .inl (unclaimed.idle u (List.mem_of_getElem? old))
    · cases started

/-- The turn of the caller. -/
theorem turn_own (led : s.Led i t) (reply : (t.request cfg).Reply) :
    (s.advance cfg i (.caller t) reply).Led i (t.step cfg s.cells reply).next := by
  have begun := Thread.hasBegun_of_isAdmitted (t := .caller t) led.admitted
  refine ⟨?_, (Caller.isAdmitted_step begun reply).trans led.admitted,
    System.getElem?_advance_self led.own, fun j u other found => ?_⟩
  · rw [System.cells_advance, Thread.cells_step]
    exact (Caller.claimed_written begun _).trans led.claimed
  · rcases System.getElem?_advance found with ⟨same, -⟩ | ⟨-, old⟩ | ⟨-, w, -, same⟩
    · exact (other same).elim
    · exact led.others j u other old
    · exact .inr ⟨w, same⟩

/-- Whatever else happens asks for no command and spares the cells. -/
theorem after?_of_other (led : s.Led i t) (calm : e.isReset = false)
    (other : e.isTurnOf i = false) (after : s.after? e = some s') :
    s'.Led i t ∧ e.command? = none ∧ s.cells.Spared s'.cells := by
  have own := System.thread_after? led.own other after
  cases e with
  | enter n =>
    cases after
    refine ⟨⟨led.claimed, led.admitted, own, fun j u apart found => ?_⟩, rfl, .refl _⟩
    rcases System.getElem?_join found with old | ⟨-, rfl⟩
    · exact led.others j u apart old
    · refine .inl (n.isIdle_thread ?_)
      rintro rfl
      cases calm
  | turn k u reply =>
    obtain ⟨present, rfl⟩ := System.after?_turn_eq_some.mp after
    have apart : k ≠ i := by
      rintro rfl
      simp [Event.isTurnOf] at other
    have harmless : (∀ c, u.request cfg ≠ .command c) ∧
        s.cells.Spared (u.step cfg s.cells reply).cells ∧
        ((u.step cfg s.cells reply).next.isIdle = true ∨
          ∃ w, (u.step cfg s.cells reply).next = .worker w) := by
      rcases led.others k u apart present with idle | ⟨w, rfl⟩
      · obtain ⟨cells, next, -⟩ := Thread.step_of_isIdle idle (.inl led.claimed) reply
        exact ⟨Thread.request_ne_of_isIdle idle, cells.symm ▸ .refl s.cells, .inl next⟩
      · exact ⟨w.request_ne, w.spared_step s.cells reply, .inr ⟨_, rfl⟩⟩
    obtain ⟨silent, spared, next⟩ := harmless
    refine ⟨⟨spared.claimed.trans led.claimed, led.admitted, own, fun j v away found => ?_⟩,
      Request.command?_eq_none silent, spared⟩
    rcases System.getElem?_advance found with ⟨-, rfl⟩ | ⟨-, old⟩ | ⟨-, w, -, same⟩
    · exact next
    · exact led.others j v away old
    · exact .inr ⟨w, same⟩

/-- What every turn of the caller keeps of the cells, of its place and of the notes on its commands,
counting its turns, a run keeps if the others leave it alone. -/
theorem run? (Allowed : Event cfg → Prop) (note : Event cfg → Option N)
    {P : Nat → Cells → Caller → List N → Prop} (led : s.Led i t) (kept : P 0 s.cells t [])
    (quiet : ∀ {e : Event cfg}, e.command? = none → note e = none)
    (own : ∀ {n c t notes} (reply : (t.request cfg).Reply), P n c t notes →
      Allowed (.turn i (.caller t) reply) →
      P (n + 1) (t.step cfg c reply).cells (t.step cfg c reply).next
        (notes ++ (note (.turn i (.caller t) reply)).toList))
    (others : ∀ {n c d t notes}, P n c t notes → c.Spared d → P n d t notes)
    (allowed : ∀ e ∈ es, Allowed e) (calm : Calm es) (run : s.run? es = some s') :
    ∃ t', s'.Led i t' ∧ P (turnsOf i es) s'.cells t' (es.filterMap note) := by
  induction es using List.reverseRecOn generalizing s' with
  | nil =>
    cases run
    exact ⟨t, led, kept⟩
  | append_singleton es e ih =>
    obtain ⟨m, before, after⟩ := runFrom?_concat_eq_some.mp run
    obtain ⟨t', led', kept'⟩ := ih (fun f mem => allowed f (List.mem_append_left [e] mem))
      calm.left before
    have noted : (es ++ [e]).filterMap note = es.filterMap note ++ (note e).toList := by
      rw [List.filterMap_append, filterMap_cons_toList, List.filterMap_nil, List.append_nil]
    have counted : turnsOf i (es ++ [e]) = turnsOf i es + if e.isTurnOf i then 1 else 0 := by
      simp [turnsOf, List.countP_append, List.countP_cons]
    rw [noted, counted]
    cases mine : e.isTurnOf i with
    | false =>
      obtain ⟨led'', silent, spared⟩ := led'.after?_of_other calm.right.head mine after
      rw [quiet silent, Option.toList_none, List.append_nil]
      exact ⟨t', led'', others kept' spared⟩
    | true =>
      cases e with
      | enter newcomer => cases mine
      | turn k u reply =>
        obtain rfl : i = k := by simpa [Event.isTurnOf] using mine
        obtain ⟨present, rfl⟩ := System.after?_turn_eq_some.mp after
        cases led'.own.symm.trans present
        exact ⟨_, led'.turn_own reply, own reply kept' (allowed _ (by simp))⟩

end System.Led

end Uplink.Readiness
