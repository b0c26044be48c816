import Mathlib.Data.List.Induction
import Mathlib.Logic.Relation

/-!
# Runs

A step relation says which states may follow one another; it keeps no record of what has happened in
between. A run is that record: the list of events that led from one state to another. This module
holds what is true of runs of any machine whose events are given by a partial function, so that what
is asked of a particular machine is only what a single event does.

## Main definitions

- `runFrom?`: what a list of events leads to.
- `statesFrom`: the states on the way.
- `notedFrom`: what somebody who looks on notes down on the way.
- `allAlong`: every event on the way comes in a state that allows it.

## Main results

- `reachable_iff_runFrom?`: runs are the sequences of steps.
- `runFrom?_preserves`: what every allowed event keeps, a run of allowed events keeps.
- `runFrom?_preserves_noted`: the same for what ties a state to the notes that were taken before it.
- `runFrom?_preserves_along`, `runFrom?_preserves_noted_along`: the same where it depends on the
  state what is allowed.
-/

namespace Uplink

variable {S E N : Type} {after? : S → E → Option S} {s s' : S} {e : E} {es fs : List E}

/-- What a list of events leads to, one event after the other. -/
def runFrom? (after? : S → E → Option S) (s : S) : List E → Option S
  | [] => some s
  | e :: es => (after? s e).bind fun next => runFrom? after? next es

/-- The states on the way, the first and the last included. -/
def statesFrom (after? : S → E → Option S) (s : S) : List E → List S
  | [] => [s]
  | e :: es => s :: ((after? s e).map fun next => statesFrom after? next es).getD []

/-- What is noted down on the way; a note is taken of an event in the state that it comes in. -/
def notedFrom (after? : S → E → Option S) (note : S → E → Option N) (s : S) : List E → List N
  | [] => []
  | e :: es =>
    (note s e).toList ++ ((after? s e).map fun next => notedFrom after? note next es).getD []

@[simp] theorem runFrom?_nil : runFrom? after? s [] = some s := rfl

theorem runFrom?_cons_eq_some :
    runFrom? after? s (e :: es) = some s' ↔
      ∃ next, after? s e = some next ∧ runFrom? after? next es = some s' := by
  simp [runFrom?, Option.bind_eq_some_iff]

/-- A run in two parts. -/
theorem runFrom?_append_eq_some :
    runFrom? after? s (es ++ fs) = some s' ↔
      ∃ mid, runFrom? after? s es = some mid ∧ runFrom? after? mid fs = some s' := by
  induction es generalizing s with
  | nil => simp
  | cons e es ih =>
    simp only [List.cons_append, runFrom?_cons_eq_some, ih]
    constructor
    · rintro ⟨next, after, mid, first, second⟩
      exact ⟨mid, ⟨next, after, first⟩, second⟩
    · rintro ⟨mid, ⟨next, after, first⟩, second⟩
      exact ⟨next, after, mid, first, second⟩

/-- A run with one event more at its end. -/
theorem runFrom?_concat_eq_some :
    runFrom? after? s (es ++ [e]) = some s' ↔
      ∃ mid, runFrom? after? s es = some mid ∧ after? mid e = some s' := by
  simp [runFrom?_append_eq_some, runFrom?_cons_eq_some]

/-- Runs are the sequences of steps, when events are the steps. -/
theorem reachable_iff_runFrom? {Step : S → S → Prop}
    (step : ∀ {s s'}, Step s s' ↔ ∃ e, after? s e = some s') :
    Relation.ReflTransGen Step s s' ↔ ∃ es, runFrom? after? s es = some s' := by
  constructor
  · intro reached
    induction reached with
    | refl => exact ⟨[], rfl⟩
    | tail _ last ih =>
      obtain ⟨es, before⟩ := ih
      obtain ⟨e, after⟩ := step.mp last
      exact ⟨es ++ [e], runFrom?_concat_eq_some.mpr ⟨_, before, after⟩⟩
  · rintro ⟨es, run⟩
    induction es generalizing s with
    | nil =>
      cases run
      exact .refl
    | cons e es ih =>
      obtain ⟨next, after, rest⟩ := runFrom?_cons_eq_some.mp run
      exact .head (step.mpr ⟨e, after⟩) (ih rest)

/-- What every allowed event keeps, a run of allowed events keeps. -/
theorem runFrom?_preserves (Allowed : E → Prop) (Kept : S → Prop)
    (step : ∀ {s e s'}, Kept s → Allowed e → after? s e = some s' → Kept s')
    (run : runFrom? after? s es = some s') (allowed : ∀ e ∈ es, Allowed e) (kept : Kept s) :
    Kept s' := by
  induction es generalizing s with
  | nil =>
    cases run
    exact kept
  | cons e es ih =>
    obtain ⟨next, after, rest⟩ := runFrom?_cons_eq_some.mp run
    exact ih rest (fun f mem => allowed f (List.mem_cons_of_mem e mem))
      (step kept (allowed e List.mem_cons_self) after)

/-! ## Notes -/

variable {note : S → E → Option N}

@[simp] theorem notedFrom_nil : notedFrom after? note s [] = [] := rfl

theorem notedFrom_cons (after : after? s e = some s') :
    notedFrom after? note s (e :: es) = (note s e).toList ++ notedFrom after? note s' es := by
  simp [notedFrom, after]

/-- The notes on a run in two parts. -/
theorem notedFrom_append (run : runFrom? after? s es = some s') :
    notedFrom after? note s (es ++ fs) =
      notedFrom after? note s es ++ notedFrom after? note s' fs := by
  induction es generalizing s with
  | nil =>
    cases run
    rfl
  | cons e es ih =>
    obtain ⟨next, after, rest⟩ := runFrom?_cons_eq_some.mp run
    rw [List.cons_append, notedFrom_cons after, notedFrom_cons after, ih rest, List.append_assoc]

/-- What every allowed event keeps of a state and the notes before it, a run keeps. -/
theorem runFrom?_preserves_noted (Allowed : E → Prop) (Kept : S → List N → Prop)
    (step : ∀ {s e s' notes}, Kept s notes → Allowed e → after? s e = some s' →
      Kept s' (notes ++ (note s e).toList))
    (run : runFrom? after? s es = some s') (allowed : ∀ e ∈ es, Allowed e) {notes : List N}
    (kept : Kept s notes) : Kept s' (notes ++ notedFrom after? note s es) := by
  induction es generalizing s notes with
  | nil =>
    cases run
    rw [notedFrom_nil, List.append_nil]
    exact kept
  | cons e es ih =>
    obtain ⟨next, after, rest⟩ := runFrom?_cons_eq_some.mp run
    rw [notedFrom_cons after, ← List.append_assoc]
    exact ih rest (fun f mem => allowed f (List.mem_cons_of_mem e mem))
      (step kept (allowed e List.mem_cons_self) after)

/-! ## Events that are allowed in some states -/

/-- Whether every event on the way comes in a state that allows it. -/
def allAlong (after? : S → E → Option S) (allowed : S → E → Bool) (s : S) : List E → Bool
  | [] => true
  | e :: es =>
    allowed s e && ((after? s e).map fun next => allAlong after? allowed next es).getD true

theorem allAlong_cons {allowed : S → E → Bool} (after : after? s e = some s') :
    allAlong after? allowed s (e :: es) = true ↔
      allowed s e = true ∧ allAlong after? allowed s' es = true := by
  simp [allAlong, after]

/-- Events that are allowed for two reasons. -/
theorem allAlong_and {p q : S → E → Bool} (first : allAlong after? p s es = true)
    (second : allAlong after? q s es = true) :
    allAlong after? (fun s e => p s e && q s e) s es = true := by
  induction es generalizing s with
  | nil => rfl
  | cons e es ih =>
    simp only [allAlong, Bool.and_eq_true] at first second ⊢
    refine ⟨⟨first.1, second.1⟩, ?_⟩
    cases after : after? s e with
    | none => rfl
    | some next =>
      simp only [after, Option.map_some, Option.getD_some] at first second ⊢
      exact ih first.2 second.2

/-- What every event that its state allows keeps, a run of such events keeps. -/
theorem runFrom?_preserves_along {allowed : S → E → Bool} (Kept : S → Prop)
    (step : ∀ {s e s'}, Kept s → allowed s e = true → after? s e = some s' → Kept s')
    (run : runFrom? after? s es = some s') (along : allAlong after? allowed s es = true)
    (kept : Kept s) : Kept s' := by
  induction es generalizing s with
  | nil =>
    cases run
    exact kept
  | cons e es ih =>
    obtain ⟨next, after, rest⟩ := runFrom?_cons_eq_some.mp run
    obtain ⟨allowed, along⟩ := (allAlong_cons after).mp along
    exact ih rest along (step kept allowed after)

/-- What every event that its state allows keeps of a state and the notes before it, a run of such
events keeps. -/
theorem runFrom?_preserves_noted_along {allowed : S → E → Bool} (Kept : S → List N → Prop)
    (step : ∀ {s e s' notes}, Kept s notes → allowed s e = true → after? s e = some s' →
      Kept s' (notes ++ (note s e).toList))
    (run : runFrom? after? s es = some s') (along : allAlong after? allowed s es = true)
    {notes : List N} (kept : Kept s notes) : Kept s' (notes ++ notedFrom after? note s es) := by
  induction es generalizing s notes with
  | nil =>
    cases run
    rw [notedFrom_nil, List.append_nil]
    exact kept
  | cons e es ih =>
    obtain ⟨next, after, rest⟩ := runFrom?_cons_eq_some.mp run
    obtain ⟨allowed, along⟩ := (allAlong_cons after).mp along
    rw [notedFrom_cons after, ← List.append_assoc]
    exact ih rest along (step kept allowed after)

end Uplink
