import Uplink.Proofs.Readiness.Lifecycle

/-!
# Following one thread

A run mixes the turns of all threads, but what a thread does next depends only on its place, on the
cells that it finds and on the reply that it gets. Somebody who follows one thread and notes down
what it meets can therefore reason about that thread alone: turns of others move it nowhere and add
nothing to the notes.

The cells are another matter, as they belong to everybody. Without resets, however, the thread that
carries a setup out is the only one to write them until it has closed them, and nobody writes them
afterwards. So facts that tie the cells to its place and to the notes carry over as well.

## Main definitions

- `Notebook`: what is noted of a turn; `System.noted` are the notes on one thread during a run.
- `System.notedOfAll`: the notes on all threads.
- `Thread.heir`: who goes on with a setup after a turn.
- `System.Unclaimed`: a coordinator that a setup finds as new.
- `System.Undisturbed`: one that no reset has disturbed since.

## Main results

- `System.follow`: what the turns of a thread keep and the others leave alone, every run keeps.
- `System.Undisturbed.run?`: calm runs leave a coordinator undisturbed.
- `Phase.follow`: facts about the cells carry over for the thread that holds them.
- `Phase.follow_heirs`: they also carry over from the caller of a setup to its worker.
-/

namespace Uplink.Readiness

variable {cfg : Config} {N : Type}

/-- What is noted of a turn: by the place of the thread, the cells that it finds and the reply that
it gets. -/
abbrev Notebook (cfg : Config) (N : Type) :=
  (t : Thread) → Cells → (t.request cfg).Reply → Option N

/-- What is read off notes if none of them are left. -/
def whenDone {A : Type} (a : A) : List N → Option A
  | [] => some a
  | _ :: _ => none

@[simp] theorem whenDone_nil {A : Type} (a : A) : whenDone a ([] : List N) = some a := rfl

namespace System

variable {s s' : System} {i : Nat} {f : Notebook cfg N} {es : List (Event cfg)}

/-- What is noted of an event by somebody who follows the `i`-th thread. -/
def note (i : Nat) (f : Notebook cfg N) (s : System) : Event cfg → Option N
  | .turn j t reply => if i = j then f t s.cells reply else none
  | .enter _ => none

/-- What is noted during a run by somebody who follows the `i`-th thread. -/
abbrev noted (i : Nat) (f : Notebook cfg N) (s : System) (es : List (Event cfg)) : List N :=
  notedFrom after? (note i f) s es

/-- What is noted of an event by somebody who follows all threads. -/
def noteOfAny (f : Notebook cfg N) (s : System) : Event cfg → Option N
  | .turn _ t reply => f t s.cells reply
  | .enter _ => none

/-- What is noted during a run by somebody who follows all threads. -/
abbrev notedOfAll (f : Notebook cfg N) (s : System) (es : List (Event cfg)) : List N :=
  notedFrom after? (noteOfAny f) s es

@[simp] theorem note_turn_self (i : Nat) (f : Notebook cfg N) (s : System) (t : Thread)
    (reply : (t.request cfg).Reply) :
    note i f s (.turn i t reply) = f t s.cells reply := if_pos rfl

/-- Nothing is noted of what others do. -/
theorem note_of_other {e : Event cfg} (other : e.isTurnOf i = false) : note i f s e = none := by
  cases e with
  | enter n => rfl
  | turn j t reply => exact if_neg (by simpa [Event.isTurnOf] using other)

/-- What each turn of a thread keeps of the system, of its place and of the notes, and what the
others leave alone, every run keeps. -/
theorem follow (Allowed : Event cfg → Prop) {K : System → Thread → List N → Prop}
    (own : ∀ {m t notes} (reply : (t.request cfg).Reply), m.threads[i]? = some t → K m t notes →
      Allowed (.turn i t reply) → K (m.advance cfg i t reply) (t.step cfg m.cells reply).next
        (notes ++ (f t m.cells reply).toList))
    (others : ∀ {m e m' t notes}, m.threads[i]? = some t → K m t notes → Allowed e →
      e.isTurnOf i = false → m.after? e = some m' → K m' t notes)
    {t : Thread} (present : s.threads[i]? = some t) {notes : List N} (kept : K s t notes)
    (allowed : ∀ e ∈ es, Allowed e) (run : s.run? es = some s') :
    ∃ t', s'.threads[i]? = some t' ∧ K s' t' (notes ++ s.noted i f es) := by
  refine runFrom?_preserves_noted Allowed
    (fun m notes => ∃ t, m.threads[i]? = some t ∧ K m t notes) ?_ run allowed ⟨t, present, kept⟩
  rintro m e m' notes ⟨t, there, kept⟩ allowed after
  cases mine : e.isTurnOf i with
  | false =>
    rw [note_of_other mine, Option.toList_none, List.append_nil]
    exact ⟨t, thread_after? there mine after, others there kept allowed mine after⟩
  | true =>
    cases e with
    | enter n => cases mine
    | turn j u reply =>
      obtain rfl : i = j := by simpa [Event.isTurnOf] using mine
      obtain ⟨found, rfl⟩ := after?_turn_eq_some.mp after
      cases there.symm.trans found
      rw [note_turn_self]
      exact ⟨_, getElem?_advance_self there, own reply there kept allowed⟩

/-- A coordinator that a setup finds as new: nothing was written, and nobody is about to write. -/
structure Unclaimed (s : System) : Prop where
  untouched : s.cells.Untouched
  idle : ∀ t ∈ s.threads, t.isIdle = true

/-- A new coordinator is unclaimed. -/
theorem Unclaimed.fresh : Unclaimed {} := ⟨.fresh, by simp⟩

/-- No reset has come in since the coordinator was unclaimed. -/
def Undisturbed (s : System) : Prop := s.Unclaimed ∨ Phase s

theorem Unclaimed.undisturbed (unclaimed : s.Unclaimed) : s.Undisturbed := .inl unclaimed

namespace Undisturbed

variable {e : Event cfg} {t : Thread}

/-- No event but a reset disturbs a coordinator. -/
theorem after? (life : s.Undisturbed) (calm : e.isReset = false) (after : s.after? e = some s') :
    s'.Undisturbed := by
  rcases life with ⟨untouched, idle⟩ | phase
  · cases e with
    | enter n =>
      cases after
      refine .inl ⟨untouched, Phase.idle_join idle ?_⟩
      rintro rfl
      cases calm
    | turn i t reply =>
      obtain ⟨present, rfl⟩ := after?_turn_eq_some.mp after
      by_cases first : ∃ setup, t = .caller (.claim setup)
      · obtain ⟨setup, rfl⟩ := first
        exact .inr (Phase.turn_of_claim present untouched idle reply)
      · obtain ⟨same, next, alone⟩ := Thread.step_of_isIdle
          (idle t (List.mem_of_getElem? present)) (.inr fun setup is => first ⟨setup, is⟩) reply
        refine .inl ⟨?_, Phase.idle_advance alone next
          fun j u _ old => idle u (List.mem_of_getElem? old)⟩
        rw [cells_advance, same]
        exact untouched
  · exact .inr (phase.after? calm after)

/-- No calm run disturbs a coordinator. -/
theorem run? (life : s.Undisturbed) (calm : Calm es) (run : s.run? es = some s') :
    s'.Undisturbed :=
  runFrom?_preserves (fun e : Event cfg => e.isReset = false) Undisturbed after? run calm life

/-- An undisturbed coordinator is in one of its phases once somebody is busy. -/
theorem phase (life : s.Undisturbed) (present : s.threads[i]? = some t)
    (busy : t.isIdle = false) : Phase s := by
  refine life.resolve_left fun unclaimed => ?_
  exact Bool.noConfusion ((unclaimed.idle t (List.mem_of_getElem? present)).symm.trans busy)

/-- The cells of an undisturbed coordinator are coherent. -/
theorem coherent (life : s.Undisturbed) : s.cells.Coherent := by
  rcases life with ⟨untouched, -⟩ | phase
  · obtain ⟨status, -, -⟩ := Outlook.mk.inj untouched.shown
    exact .of_pending untouched.pending (status ▸ rfl)
  · exact phase.coherent

/-- No event but a reset changes an outcome once the status is final. -/
theorem sameOutcome_after? (life : s.Undisturbed) (final : s.cells.status.isTerminal = true)
    (calm : e.isReset = false) (after : s.after? e = some s') :
    s.cells.SameOutcome s'.cells := by
  rcases life with ⟨untouched, -⟩ | phase
  · obtain ⟨status, -, -⟩ := Outlook.mk.inj untouched.shown
    rw [status] at final
    cases final
  · exact phase.sameOutcome_after? final calm after

end Undisturbed

end System

/-- Who goes on with a setup after a turn: the worker that was started, or else the thread whose
turn it was. -/
def Thread.heir (cfg : Config) (c : Cells) (t : Thread) (reply : (t.request cfg).Reply) : Thread :=
  match t.started? cfg reply with
  | some w => worker w
  | none => (t.step cfg c reply).next

namespace Phase

variable {s s' : System} {i : Nat} {t : Thread} {e : Event cfg} {es : List (Event cfg)}

/-- Whoever is not idle holds the cells, and everybody else is idle. -/
theorem holds (phase : Phase s) (present : s.threads[i]? = some t) (busy : t.isIdle = false) :
    t.Holds s.cells ∧ ∀ j u, j ≠ i → s.threads[j]? = some u → u.isIdle = true := by
  have awake (idle : t.isIdle = true) : False := Bool.noConfusion (idle.symm.trans busy)
  cases phase with
  | vacant _ idle => exact (awake (idle t (List.mem_of_getElem? present))).elim
  | closed _ _ idle => exact (awake (idle t (List.mem_of_getElem? present))).elim
  | held k u there holds others =>
    by_cases same : i = k
    · subst same
      cases present.symm.trans there
      exact ⟨holds, others⟩
    · exact (awake (others i t same present)).elim

/-- Once the signal is settled, everybody is idle. -/
theorem idle_of_settled (phase : Phase s) (settled : s.cells.ready ≠ .pending) :
    s.cells.claimed = true ∧ ∀ t ∈ s.threads, t.isIdle = true := by
  cases phase with
  | vacant fresh _ => exact (settled (fresh ▸ rfl)).elim
  | held _ _ _ holds _ => exact (settled holds.pending).elim
  | closed _ closed idle => exact ⟨closed.claimed, idle⟩

/-- The turn of an idle thread writes nothing once a setup was admitted. -/
theorem cells_after?_of_idle (claimed : s.cells.claimed = true)
    (idle : ∀ j u, e.isTurnOf j = true → s.threads[j]? = some u → u.isIdle = true)
    (after : s.after? e = some s') : s'.cells = s.cells := by
  cases e with
  | enter n =>
    cases after
    rfl
  | turn j u reply =>
    obtain ⟨there, rfl⟩ := System.after?_turn_eq_some.mp after
    have quiet := idle j u (by simp [Event.isTurnOf]) there
    rw [System.cells_advance, (Thread.step_of_isIdle quiet (.inl claimed) reply).1]

/-- While a thread holds the cells, nobody else writes them. -/
theorem cells_after?_of_other (phase : Phase s) (present : s.threads[i]? = some t)
    (busy : t.isIdle = false) (other : e.isTurnOf i = false) (after : s.after? e = some s') :
    s'.cells = s.cells := by
  obtain ⟨holds, others⟩ := phase.holds present busy
  refine cells_after?_of_idle holds.claimed (fun j u own there => others j u ?_ there) after
  rintro rfl
  cases own.symm.trans other

/-- Once the signal is settled, nobody writes the cells. -/
theorem cells_after?_of_settled (phase : Phase s) (settled : s.cells.ready ≠ .pending)
    (after : s.after? e = some s') : s'.cells = s.cells := by
  obtain ⟨claimed, idle⟩ := phase.idle_of_settled settled
  exact cells_after?_of_idle claimed (fun j u _ there => idle u (List.mem_of_getElem? there)) after

/-- What a thread is once it has set out with the cells: it holds them, or it has closed them and
is idle. -/
structure Bearer (s : System) (i : Nat) (t : Thread) : Prop where
  phase : Phase s
  present : s.threads[i]? = some t
  stage : t.isIdle = false ∨ s.cells.ready ≠ .pending

namespace Bearer

/-- It holds the cells, or nothing is left for it to write. -/
theorem holds (bearer : Bearer s i t) : t.Holds s.cells ∨ t.isIdle = true := by
  rcases bearer.stage with busy | settled
  · exact .inl (bearer.phase.holds bearer.present busy).1
  · exact .inr ((bearer.phase.idle_of_settled settled).2 t (List.mem_of_getElem? bearer.present))

/-- Nobody else writes the cells. -/
theorem others (bearer : Bearer s i t) (calm : e.isReset = false)
    (other : e.isTurnOf i = false) (after : s.after? e = some s') :
    Bearer s' i t ∧ s'.cells = s.cells := by
  have cells : s'.cells = s.cells := by
    rcases bearer.stage with busy | settled
    · exact bearer.phase.cells_after?_of_other bearer.present busy other after
    · exact bearer.phase.cells_after?_of_settled settled after
  exact ⟨⟨bearer.phase.after? calm after, System.thread_after? bearer.present other after,
    cells ▸ bearer.stage⟩, cells⟩

/-- Its own turn leaves it so, if it starts nobody to hand the cells over to. -/
theorem own (bearer : Bearer s i t) (reply : (t.request cfg).Reply)
    (alone : t.started? cfg reply = none) :
    Bearer (s.advance cfg i t reply) i (t.step cfg s.cells reply).next := by
  refine ⟨bearer.phase.turn bearer.present reply, System.getElem?_advance_self bearer.present, ?_⟩
  rw [System.cells_advance]
  rcases bearer.stage with busy | settled
  · cases (bearer.phase.holds bearer.present busy).1.step reply with
    | goesOn holds => exact .inl holds.not_isIdle
    | leaves _ heir started => cases alone.symm.trans started
    | closes _ _ e closed =>
      refine .inr ?_
      rw [closed.settled]
      cases e <;> nofun
  · obtain ⟨claimed, idle⟩ := bearer.phase.idle_of_settled settled
    have quiet := idle t (List.mem_of_getElem? bearer.present)
    rw [(Thread.step_of_isIdle quiet (.inl claimed) reply).1]
    exact .inr settled

end Bearer

/-- What each turn of the thread that holds the cells keeps of them, of its place and of the notes,
every calm run keeps; also once the thread is done and takes idle turns. -/
theorem follow {f : Notebook cfg N} {K : Cells → Thread → List N → Prop}
    (alone : ∀ {c t notes}, K c t notes → ∀ reply : (t.request cfg).Reply,
      t.started? cfg reply = none)
    (step : ∀ {c t notes} (reply : (t.request cfg).Reply), K c t notes →
      t.Holds c ∨ t.isIdle = true →
      K (t.step cfg c reply).cells (t.step cfg c reply).next (notes ++ (f t c reply).toList))
    (phase : Phase s) (present : s.threads[i]? = some t) (busy : t.isIdle = false)
    {notes : List N} (kept : K s.cells t notes) (calm : Calm es) (run : s.run? es = some s') :
    ∃ t', s'.threads[i]? = some t' ∧ K s'.cells t' (notes ++ s.noted i f es) := by
  obtain ⟨t', there, -, kept'⟩ := System.follow (fun e : Event cfg => e.isReset = false)
    (K := fun m t notes => Bearer m i t ∧ K m.cells t notes)
    (fun reply _ ⟨bearer, kept⟩ _ =>
      ⟨bearer.own reply (alone kept reply), step reply kept bearer.holds⟩)
    (fun _ ⟨bearer, kept⟩ calm other after =>
      have ⟨bearer', cells⟩ := bearer.others calm other after
      ⟨bearer', cells ▸ kept⟩)
    present ⟨⟨phase, present, .inl busy⟩, kept⟩ calm run
  exact ⟨t', there, kept'⟩

/-- What is true of the thread that carries a setup out and of the notes on all threads, while it
holds the cells; and of the last such thread, once the signal is settled. -/
inductive Carried (K : Cells → Thread → List N → Prop) (s : System) (notes : List N) : Prop
  | busy (i : Nat) (t : Thread) (present : s.threads[i]? = some t) (holds : t.Holds s.cells)
      (kept : K s.cells t notes)
  | settled (settled : s.cells.ready ≠ .pending) (t : Thread) (kept : K s.cells t notes)

/-- What each turn of the thread that holds the cells keeps of them, of its heir and of the notes on
all threads, every calm run keeps. -/
theorem follow_heirs {f : Notebook cfg N} {K : Cells → Thread → List N → Prop}
    (silent : ∀ {c t} (reply : (t.request cfg).Reply), t.isIdle = true → c.claimed = true →
      f t c reply = none)
    (step : ∀ {c t notes} (reply : (t.request cfg).Reply), K c t notes → t.Holds c →
      K (t.step cfg c reply).cells (t.heir cfg c reply) (notes ++ (f t c reply).toList))
    (phase : Phase s) (present : s.threads[i]? = some t) (holds : t.Holds s.cells) {notes : List N}
    (kept : K s.cells t notes) (calm : Calm es) (run : s.run? es = some s') :
    Carried K s' (notes ++ s.notedOfAll f es) := by
  refine (runFrom?_preserves_noted (fun e : Event cfg => e.isReset = false)
    (fun m notes => Phase m ∧ Carried K m notes) ?_ run calm
    ⟨phase, .busy i t present holds kept⟩).2
  rintro m e m' notes ⟨phase, carried⟩ calm after
  refine ⟨phase.after? calm after, ?_⟩
  -- Nothing is noted of threads that are idle.
  have quiet (claimed : m.cells.claimed = true)
      (idle : ∀ j u, e.isTurnOf j = true → m.threads[j]? = some u → u.isIdle = true) :
      notes ++ (System.noteOfAny f m e).toList = notes := by
    cases e with
    | enter n => exact List.append_nil notes
    | turn j u reply =>
      obtain ⟨there, -⟩ := System.after?_turn_eq_some.mp after
      have none : f u m.cells reply = none :=
        silent reply (idle j u (by simp [Event.isTurnOf]) there) claimed
      rw [System.noteOfAny, none, Option.toList_none, List.append_nil]
  cases carried with
  | settled settled t kept =>
    obtain ⟨claimed, idle⟩ := phase.idle_of_settled settled
    rw [quiet claimed fun j u _ there => idle u (List.mem_of_getElem? there)]
    have cells := phase.cells_after?_of_settled settled after
    exact .settled (cells ▸ settled) t (cells ▸ kept)
  | busy i t present holds kept =>
    obtain ⟨-, others⟩ := phase.holds present holds.not_isIdle
    cases own : e.isTurnOf i with
    | false =>
      rw [quiet holds.claimed fun j u turn there => others j u (by
        rintro rfl
        cases own.symm.trans turn) there]
      have cells := phase.cells_after?_of_other present holds.not_isIdle own after
      exact .busy i t (System.thread_after? present own after) (cells ▸ holds) (cells ▸ kept)
    | true =>
      cases e with
      | enter n => cases own
      | turn j u reply =>
        obtain rfl : i = j := by simpa [Event.isTurnOf] using own
        obtain ⟨there, rfl⟩ := System.after?_turn_eq_some.mp after
        cases present.symm.trans there
        have next := step reply kept holds
        cases holds.step reply with
        | goesOn holds alone =>
          rw [Thread.heir, alone] at next
          exact .busy i _ (System.getElem?_advance_self present) holds next
        | leaves idle heir started holds =>
          rw [Thread.heir, started] at next
          exact .busy _ _ (System.getElem?_advance_started started) holds next
        | closes idle alone e closed =>
          rw [Thread.heir, alone] at next
          refine .settled ?_ _ next
          rw [System.cells_advance, closed.settled]
          cases e <;> simp [Ending.settle, Signal.raise, Signal.abandon]

end Phase

end Uplink.Readiness
