import Mathlib.Data.List.Forall2
import Mathlib.Data.List.Induction
import Mathlib.Logic.Relation
import Uplink.CancelToken
import Uplink.Proofs.Entries

/-!
# Families of cancel tokens

Copying leads from one token to another, and tokens between which copies lead, in whichever
direction, are of one family. The flag lies with the family and the deadline with every token of it,
each copied at a time of its own. Here both are told from what was done, without a word about flags:
a token is cancelled if and only if one of its family was, or the first of them was made with a
deadline that has come.

A family is the set of tokens with one flag. That a chain of copies keeps the flag is seen from one
copy. The converse needs the history: whoever has a flag has come from its first owner by copies.

## Main definitions

- `TokenPool.run`: the pool after operations.
- `TokenPool.Once`: that an operation met a pool of which something held.
- `TokenPool.Kin`: tokens of one family.

## Main results

- `TokenPool.kin_of_flag_eq`, `TokenPool.Kin.getElem?_eq`: families are the tokens with one flag.
- `TokenPool.AlikeBut.run`: what is done to a family changes nothing outside of it.
- `TokenPool.cancelled_by_kin`: when a token is cancelled.
-/

namespace Uplink.TokenPool

/-- The pool after operations, one after the other. -/
def run (p : TokenPool) (ops : List TokenOperation) : TokenPool := ops.foldl apply p

/-- An operation met a pool of which something held, in the course of operations on no tokens. -/
def Once (now : Instant) (ops : List TokenOperation) (P : TokenPool → TokenOperation → Prop) :
    Prop :=
  ∃ before op since, ops = before ++ op :: since ∧ P (run { now } before) op

/-- The `j`-th token was made as a copy of the `i`-th. -/
def IsCopy (now : Instant) (ops : List TokenOperation) (i j : Nat) : Prop :=
  Once now ops fun p op => op = .copy i ∧ i < p.tokens.length ∧ j = p.tokens.length

/-- Tokens between which copies lead, in whichever direction. -/
def Kin (now : Instant) (ops : List TokenOperation) : Nat → Nat → Prop :=
  Relation.EqvGen (IsCopy now ops)

/-- The `i`-th token was cancelled by hand. -/
def IsStopped (now : Instant) (ops : List TokenOperation) (i : Nat) : Prop :=
  Once now ops fun p op => op = .cancel i ∧ i < p.tokens.length

/-- The `i`-th token was made with a timeout, at the end of which the clock shows an instant. -/
def HasDeadline (now : Instant) (ops : List TokenOperation) (i : Nat) (deadline : Instant) : Prop :=
  Once now ops fun p op => ∃ limit,
    op = .withTimeout limit ∧ i = p.tokens.length ∧ p.now.after? limit = some deadline

variable {now : Instant} {ops : List TokenOperation} {op : TokenOperation} {p q : TokenPool}
  {i j flag : Nat} {t u : CancelToken} {deadline : Instant}
  {P : TokenPool → TokenOperation → Prop}

theorem run_append (p : TokenPool) (ops more : List TokenOperation) :
    p.run (ops ++ more) = (p.run ops).run more := List.foldl_append

theorem run_concat (p : TokenPool) (ops : List TokenOperation) (op : TokenOperation) :
    p.run (ops ++ [op]) = (p.run ops).apply op := run_append p ops [op]

/-! ## One operation -/

/-- A token stays where it is. -/
theorem getElem?_apply (found : p.tokens[i]? = some t) : (p.apply op).tokens[i]? = some t := by
  cases op with
  | fresh | withTimeout | copy => exact getElem?_append_of_some found
  | pass => exact found
  | cancel k =>
    rw [apply]
    split
    · exact found
    · exact found

theorem getElem?_run (found : p.tokens[i]? = some t) (ops : List TokenOperation) :
    (p.run ops).tokens[i]? = some t := by
  induction ops generalizing p with
  | nil => exact found
  | cons op ops ih => exact ih (getElem?_apply found)

/-- A raised flag stays raised. -/
theorem raised_apply (raised : p.flags[flag]? = some true) :
    (p.apply op).flags[flag]? = some true := by
  cases op with
  | fresh | withTimeout => exact getElem?_append_of_some raised
  | copy | pass => exact raised
  | cancel k =>
    rw [apply]
    split
    · rw [CancelToken.cancel, List.getElem?_set]
      split
      · rw [if_pos]
        subst flag
        exact (List.getElem?_eq_some_iff.mp raised).1
      · exact raised
    · exact raised

/-- What is new about a token: it has a flag of its own, or it is a copy. -/
inductive IsNew (p : TokenPool) : TokenOperation → CancelToken → Prop
  | fresh : IsNew p .fresh ⟨p.flags.length, none⟩
  | withTimeout (limit : Duration) :
      IsNew p (.withTimeout limit) ⟨p.flags.length, p.now.after? limit⟩
  | copy (k : Nat) (t : CancelToken) (found : p.tokens[k]? = some t) : IsNew p (.copy k) t

/-- A token was there before or is new. -/
theorem of_getElem?_apply (found : (p.apply op).tokens[i]? = some t) :
    p.tokens[i]? = some t ∨ i = p.tokens.length ∧ p.IsNew op t := by
  cases op with
  | fresh =>
    rcases getElem?_concat found with old | ⟨last, rfl⟩
    · exact .inl old
    · exact .inr ⟨last, .fresh⟩
  | withTimeout limit =>
    rcases getElem?_concat found with old | ⟨last, rfl⟩
    · exact .inl old
    · exact .inr ⟨last, .withTimeout limit⟩
  | copy k =>
    cases copied : p.tokens[k]? with
    | none =>
      rw [apply, copied] at found
      exact .inl (by simpa using found)
    | some s =>
      rw [apply, copied] at found
      rcases getElem?_concat found with old | ⟨last, rfl⟩
      · exact .inl old
      · exact .inr ⟨last, .copy k _ copied⟩
  | cancel k =>
    rw [apply] at found
    split at found
    · exact .inl found
    · exact .inl found
  | pass d => exact .inl found

/-- A flag was raised before, or a token that has it is cancelled. -/
theorem of_raised_apply (raised : (p.apply op).flags[flag]? = some true) :
    p.flags[flag]? = some true ∨
      ∃ k t, op = .cancel k ∧ p.tokens[k]? = some t ∧ t.flag = flag := by
  cases op with
  | fresh | withTimeout =>
    rcases getElem?_concat raised with old | ⟨-, lowered⟩
    · exact .inl old
    · cases lowered
  | copy | pass => exact .inl raised
  | cancel k =>
    rw [apply] at raised
    split at raised
    next t found =>
      rw [CancelToken.cancel, List.getElem?_set] at raised
      split at raised
      next own => exact .inr ⟨k, t, rfl, found, own⟩
      next => exact .inl raised
    next => exact .inl raised

theorem length_flags_apply : p.flags.length ≤ (p.apply op).flags.length := by
  cases op with
  | fresh | withTimeout => exact (List.prefix_append p.flags [false]).length_le
  | copy | pass => exact Nat.le_refl _
  | cancel k =>
    rw [apply]
    split
    · exact Nat.le_of_eq List.length_set.symm
    · exact Nat.le_refl _

/-- Time does not run backwards. -/
theorem now_apply : p.now.nanos ≤ (p.apply op).now.nanos := by
  cases op with
  | fresh | withTimeout | copy => exact Nat.le_refl _
  | pass d => exact Nat.le_add_right _ _
  | cancel k =>
    rw [apply]
    split
    · exact Nat.le_refl _
    · exact Nat.le_refl _

/-! ## What happened once -/

theorem once_concat :
    Once now (ops ++ [op]) P ↔ Once now ops P ∨ P (run { now } ops) op := by
  constructor
  · rintro ⟨before, met, since, split, holds⟩
    rcases List.eq_nil_or_concat since with rfl | ⟨since, last, rfl⟩
    · obtain ⟨rfl, same⟩ := List.append_inj' split rfl
      obtain rfl := List.head_eq_of_cons_eq same
      exact .inr holds
    · rw [List.concat_eq_append, ← List.cons_append, ← List.append_assoc] at split
      obtain ⟨rfl, -⟩ := List.append_inj' split rfl
      exact .inl ⟨before, met, since, rfl, holds⟩
  · rintro (⟨before, met, since, rfl, holds⟩ | holds)
    · exact ⟨before, met, since ++ [op], by simp, holds⟩
    · exact ⟨ops, op, [], rfl, holds⟩

/-- Every token has a flag. -/
def Flagged (p : TokenPool) : Prop :=
  ∀ (i : Nat) t, p.tokens[i]? = some t → t.flag < p.flags.length

theorem Flagged.apply (flagged : p.Flagged) : (p.apply op).Flagged := by
  intro i t found
  rcases of_getElem?_apply found with old | ⟨-, new⟩
  · exact Nat.lt_of_lt_of_le (flagged i t old) length_flags_apply
  · cases new with
    | fresh | withTimeout =>
      show p.flags.length < (p.flags ++ [false]).length
      rw [List.length_append]
      exact Nat.lt_succ_self _
    | copy k t copied => exact flagged k t copied

theorem flagged_run (now : Instant) (ops : List TokenOperation) : (run { now } ops).Flagged := by
  induction ops using List.reverseRecOn with
  | nil =>
    intro i t found
    cases found
  | append_singleton ops op ih =>
    rw [run_concat]
    exact ih.apply

/-- What an operation brings about and every operation leaves holds ever after. -/
theorem Once.leaves {Q : TokenPool → Prop} (once : Once now ops P)
    (brings : ∀ p op, Flagged p → P p op → Q (p.apply op))
    (stays : ∀ p op, Q p → Q (p.apply op)) : Q (run { now } ops) := by
  induction ops using List.reverseRecOn with
  | nil =>
    obtain ⟨before, met, since, split, -⟩ := once
    simp at split
  | append_singleton ops op ih =>
    rw [run_concat]
    rcases once_concat.mp once with old | holds
    · exact stays _ _ (ih old)
    · exact brings _ _ (flagged_run now ops) holds

/-- A copy is the same token. -/
theorem IsCopy.getElem? (copied : IsCopy now ops i j) :
    ∃ t, (run { now } ops).tokens[i]? = some t ∧ (run { now } ops).tokens[j]? = some t := by
  refine Once.leaves (Q := fun p => ∃ t, p.tokens[i]? = some t ∧ p.tokens[j]? = some t) copied
    (fun p op flagged => ?_) fun p op => ?_
  · rintro ⟨rfl, inside, rfl⟩
    have found : p.tokens[i]? = some p.tokens[i] := List.getElem?_eq_getElem inside
    refine ⟨p.tokens[i], getElem?_apply found, ?_⟩
    rw [apply, found]
    exact List.getElem?_concat_length
  · rintro ⟨t, here, there⟩
    exact ⟨t, getElem?_apply here, getElem?_apply there⟩

/-- A token that was cancelled has a raised flag. -/
theorem IsStopped.raised (stopped : IsStopped now ops i) :
    ∃ t, (run { now } ops).tokens[i]? = some t ∧ (run { now } ops).flags[t.flag]? = some true := by
  refine Once.leaves (Q := fun p => ∃ t, p.tokens[i]? = some t ∧ p.flags[t.flag]? = some true)
    stopped (fun p op flagged => ?_) fun p op => ?_
  · rintro ⟨rfl, inside⟩
    have found : p.tokens[i]? = some p.tokens[i] := List.getElem?_eq_getElem inside
    refine ⟨p.tokens[i], getElem?_apply found, ?_⟩
    rw [apply, found]
    exact List.getElem?_set_self (flagged i _ found)
  · rintro ⟨t, found, raised⟩
    exact ⟨t, getElem?_apply found, raised_apply raised⟩

/-- A token that was made with a timeout carries the deadline. -/
theorem HasDeadline.carried (timed : HasDeadline now ops i deadline) :
    ∃ t, (run { now } ops).tokens[i]? = some t ∧ t.deadline = some deadline := by
  refine Once.leaves (Q := fun p => ∃ t, p.tokens[i]? = some t ∧ t.deadline = some deadline)
    timed (fun p op flagged => ?_) fun p op => ?_
  · rintro ⟨limit, rfl, rfl, shown⟩
    exact ⟨⟨p.flags.length, p.now.after? limit⟩, List.getElem?_concat_length, shown⟩
  · rintro ⟨t, found, carries⟩
    exact ⟨t, getElem?_apply found, carries⟩

/-- A raised flag goes back to a token that was cancelled. -/
theorem exists_isStopped_of_raised (raised : (run { now } ops).flags[flag]? = some true) :
    ∃ i t, (run { now } ops).tokens[i]? = some t ∧ t.flag = flag ∧ IsStopped now ops i := by
  induction ops using List.reverseRecOn with
  | nil => cases raised
  | append_singleton ops op ih =>
    rw [run_concat] at raised ⊢
    rcases of_raised_apply raised with old | ⟨i, t, rfl, found, own⟩
    · obtain ⟨i, t, found, own, stopped⟩ := ih old
      exact ⟨i, t, getElem?_apply found, own, once_concat.mpr (.inl stopped)⟩
    · have inside := (List.getElem?_eq_some_iff.mp found).1
      exact ⟨i, t, getElem?_apply found, own, once_concat.mpr (.inr ⟨rfl, inside⟩)⟩

/-- A deadline goes back to a token that was made with it. -/
theorem exists_hasDeadline_of_carried (found : (run { now } ops).tokens[i]? = some t)
    (carries : t.deadline = some deadline) :
    ∃ j, (run { now } ops).tokens[j]? = some t ∧ HasDeadline now ops j deadline := by
  induction ops using List.reverseRecOn generalizing i with
  | nil => cases found
  | append_singleton ops op ih =>
    rw [run_concat] at found ⊢
    have earlier {k : Nat} (there : (run { now } ops).tokens[k]? = some t) :
        ∃ j, ((run { now } ops).apply op).tokens[j]? = some t ∧
          HasDeadline now (ops ++ [op]) j deadline := by
      obtain ⟨j, made, timed⟩ := ih there
      exact ⟨j, getElem?_apply made, once_concat.mpr (.inl timed)⟩
    rcases of_getElem?_apply found with old | ⟨rfl, new⟩
    · exact earlier old
    · cases new with
      | fresh => cases carries
      | withTimeout limit => exact ⟨_, found, once_concat.mpr (.inr ⟨limit, rfl, rfl, carries⟩)⟩
      | copy k t copied => exact earlier copied

/-! ## Families -/

/-- Tokens of one family are one token. -/
theorem Kin.getElem?_eq (kin : Kin now ops i j) :
    (run { now } ops).tokens[i]? = (run { now } ops).tokens[j]? := by
  induction kin with
  | rel i j copied =>
    obtain ⟨t, here, there⟩ := copied.getElem?
    rw [here, there]
  | refl i => rfl
  | symm i j _ ih => exact ih.symm
  | trans i j k _ _ first second => exact first.trans second

/-- A family stays one. -/
theorem Kin.concat (kin : Kin now ops i j) : Kin now (ops ++ [op]) i j :=
  kin.mono fun _ _ copied => once_concat.mpr (.inl copied)

/-- A new token is of the family whose flag it has. -/
theorem kin_new (there : (run { now } ops).tokens[i]? = some t)
    (new : IsNew (run { now } ops) op u) (same : t.flag = u.flag)
    (family : ∀ j v, (run { now } ops).tokens[j]? = some v → t.flag = v.flag → Kin now ops i j) :
    Kin now (ops ++ [op]) i (run { now } ops).tokens.length := by
  have bound := flagged_run now ops i t there
  cases new with
  | fresh => exact absurd same (Nat.ne_of_lt bound)
  | withTimeout limit => exact absurd same (Nat.ne_of_lt bound)
  | copy k u copied =>
    have inside := (List.getElem?_eq_some_iff.mp copied).1
    have made : IsCopy now (ops ++ [.copy k]) k (run { now } ops).tokens.length :=
      once_concat.mpr (.inr ⟨rfl, inside, rfl⟩)
    exact .trans _ _ _ (family k u copied same).concat (.rel _ _ made)

/-- Tokens with one flag are of one family: the flag came to each of them by copies. -/
theorem kin_of_flag_eq (here : (run { now } ops).tokens[i]? = some t)
    (there : (run { now } ops).tokens[j]? = some u) (same : t.flag = u.flag) :
    Kin now ops i j := by
  induction ops using List.reverseRecOn generalizing i j t u with
  | nil => cases here
  | append_singleton ops op ih =>
    rw [run_concat] at here there
    rcases of_getElem?_apply here with old | ⟨rfl, new⟩
    · rcases of_getElem?_apply there with old' | ⟨rfl, new'⟩
      · exact (ih old old' same).concat
      · exact kin_new old new' same fun k v found shared => ih old found shared
    · rcases of_getElem?_apply there with old' | ⟨rfl, -⟩
      · refine .symm _ _ (kin_new old' new same.symm fun k v found shared => ?_)
        exact ih old' found shared
      · exact .refl _

/-! ## What is done to another family -/

/-- Pools that differ at most in a family: in whether its flag is raised, and in the deadlines of the
tokens that have this flag. -/
structure AlikeBut (flag : Nat) (p q : TokenPool) : Prop where
  now : q.now = p.now
  flags_length : q.flags.length = p.flags.length
  flags : ∀ f ≠ flag, q.flags[f]? = p.flags[f]?
  tokens : List.Forall₂ (fun t u => u.flag = t.flag ∧ (t.flag ≠ flag → u = t)) p.tokens q.tokens

/-- Tokens at one place, or none in either list. -/
theorem forall₂_getElem? {α β : Type} {R : α → β → Prop} {l : List α} {m : List β}
    (related : List.Forall₂ R l m) (i : Nat) :
    l[i]? = none ∧ m[i]? = none ∨ ∃ a b, l[i]? = some a ∧ m[i]? = some b ∧ R a b := by
  induction related generalizing i with
  | nil => exact .inl ⟨rfl, rfl⟩
  | cons head tail ih =>
    cases i with
    | zero => exact .inr ⟨_, _, rfl, rfl, head⟩
    | succ i => exact ih i

theorem AlikeBut.refl (flag : Nat) (p : TokenPool) : AlikeBut flag p p :=
  ⟨rfl, rfl, fun _ _ => rfl, List.forall₂_same.mpr fun _ _ => ⟨rfl, fun _ => rfl⟩⟩

/-- Tokens made with flags of their own keep pools alike, whatever the deadlines are if the flag is
the one that does not matter. -/
theorem AlikeBut.add {d e : Option Instant} (alike : AlikeBut flag p q)
    (same : p.flags.length ≠ flag → e = d) :
    AlikeBut flag (p.add (CancelToken.make p.flags d)) (q.add (CancelToken.make q.flags e)) := by
  obtain ⟨now, length, flags, tokens⟩ := alike
  refine ⟨now, ?_, fun f other => ?_, ?_⟩
  · show (q.flags ++ [false]).length = (p.flags ++ [false]).length
    rw [List.length_append, List.length_append, length]
  · show (q.flags ++ [false])[f]? = (p.flags ++ [false])[f]?
    rw [List.getElem?_append, List.getElem?_append, length, flags f other]
  · refine List.rel_append tokens (.cons ⟨length, fun apart => ?_⟩ .nil)
    show CancelToken.mk q.flags.length e = ⟨p.flags.length, d⟩
    rw [length, same apart]

/-- The same operation keeps pools alike. -/
theorem AlikeBut.apply (alike : AlikeBut flag p q) : AlikeBut flag (p.apply op) (q.apply op) := by
  cases op with
  | fresh => exact alike.add fun _ => rfl
  | withTimeout limit => exact alike.add fun _ => congrArg (·.after? limit) alike.now
  | copy k =>
    refine ⟨alike.now, alike.flags_length, alike.flags, ?_⟩
    refine List.rel_append alike.tokens ?_
    rcases forall₂_getElem? alike.tokens k with ⟨here, there⟩ | ⟨t, u, here, there, related⟩
    · rw [here, there]
      exact .nil
    · rw [here, there]
      exact .cons related .nil
  | cancel k =>
    rcases forall₂_getElem? alike.tokens k with ⟨here, there⟩ | ⟨t, u, here, there, same, -⟩
    · rw [TokenPool.apply, TokenPool.apply, here, there]
      exact alike
    · rw [TokenPool.apply, TokenPool.apply, here, there]
      refine ⟨alike.now, ?_, fun f other => ?_, alike.tokens⟩
      · show (q.flags.set u.flag true).length = (p.flags.set t.flag true).length
        rw [List.length_set, List.length_set, alike.flags_length]
      · show (q.flags.set u.flag true)[f]? = (p.flags.set t.flag true)[f]?
        rw [List.getElem?_set, List.getElem?_set, same, alike.flags_length, alike.flags f other]
  | pass d => exact ⟨congrArg (·.later d) alike.now, alike.flags_length, alike.flags, alike.tokens⟩

theorem AlikeBut.run (alike : AlikeBut flag p q) (ops : List TokenOperation) :
    AlikeBut flag (p.run ops) (q.run ops) := by
  induction ops generalizing p q with
  | nil => exact alike
  | cons op ops ih => exact ih alike.apply

/-! ## Who is cancelled -/

theorem getElem?_cancelled (p : TokenPool) (i : Nat) :
    p.cancelled[i]? = p.tokens[i]?.map fun t => t.isCancelled p.flags p.now := List.getElem?_map

/-- A token is cancelled if its flag is raised or its deadline has come. -/
theorem isCancelled_iff {flags : CancelToken.Flags} :
    t.isCancelled flags now = true ↔
      flags[t.flag]? = some true ∨ ∃ deadline, t.deadline = some deadline ∧
        deadline.nanos ≤ now.nanos := by
  have lowered : flags.getD t.flag false = true ↔ flags[t.flag]? = some true := by
    rw [List.getD_eq_getElem?_getD]
    cases flags[t.flag]? <;> simp
  rw [CancelToken.isCancelled, Bool.or_eq_true, lowered]
  refine or_congr_right ?_
  cases t.deadline with
  | none => simp
  | some deadline => simp [Instant.reachedAt]

theorem cancelled_eq_true_iff :
    p.cancelled[i]? = some true ↔ ∃ t, p.tokens[i]? = some t ∧
      (p.flags[t.flag]? = some true ∨ ∃ deadline, t.deadline = some deadline ∧
        deadline.nanos ≤ p.now.nanos) := by
  rw [getElem?_cancelled, Option.map_eq_some_iff]
  simp only [isCancelled_iff]

/-- Outside of a family nothing tells alike pools apart. -/
theorem AlikeBut.cancelled (alike : AlikeBut flag p q)
    (apart : ∀ t, p.tokens[i]? = some t → t.flag ≠ flag) : q.cancelled[i]? = p.cancelled[i]? := by
  rw [getElem?_cancelled, getElem?_cancelled]
  rcases forall₂_getElem? alike.tokens i with ⟨here, there⟩ | ⟨t, u, here, there, -, same⟩
  · rw [here, there, Option.map_none, Option.map_none]
  · have other : t.flag ≠ flag := apart t here
    obtain rfl : u = t := same other
    rw [here, there, Option.map_some, Option.map_some, CancelToken.isCancelled,
      CancelToken.isCancelled, List.getD_eq_getElem?_getD, List.getD_eq_getElem?_getD,
      alike.flags _ other, alike.now]

/-- Once cancelled, always cancelled. -/
theorem cancelled_run (stopped : p.cancelled[i]? = some true) (more : List TokenOperation) :
    (p.run more).cancelled[i]? = some true := by
  induction more generalizing p with
  | nil => exact stopped
  | cons op more ih =>
    obtain ⟨t, found, reason⟩ := cancelled_eq_true_iff.mp stopped
    refine ih (cancelled_eq_true_iff.mpr ⟨t, getElem?_apply found, ?_⟩)
    rcases reason with raised | ⟨deadline, carries, come⟩
    · exact .inl (raised_apply raised)
    · exact .inr ⟨deadline, carries, Nat.le_trans come now_apply⟩

/-- A token is cancelled if and only if one of its family was cancelled, or made with a deadline
that has come. -/
theorem cancelled_iff_exists_kin :
    (run { now } ops).cancelled[i]? = some true ↔
      ∃ j, Kin now ops i j ∧ (IsStopped now ops j ∨
        ∃ deadline, HasDeadline now ops j deadline ∧
          deadline.nanos ≤ (run { now } ops).now.nanos) := by
  rw [cancelled_eq_true_iff]
  constructor
  · rintro ⟨t, found, raised | ⟨deadline, carries, come⟩⟩
    · obtain ⟨j, u, there, same, stopped⟩ := exists_isStopped_of_raised raised
      exact ⟨j, kin_of_flag_eq found there same.symm, .inl stopped⟩
    · obtain ⟨j, there, timed⟩ := exists_hasDeadline_of_carried found carries
      exact ⟨j, kin_of_flag_eq found there rfl, .inr ⟨deadline, timed, come⟩⟩
  · rintro ⟨j, kin, stopped | ⟨deadline, timed, come⟩⟩
    · obtain ⟨t, there, raised⟩ := stopped.raised
      exact ⟨t, kin.getElem?_eq.trans there, .inl raised⟩
    · obtain ⟨t, there, carries⟩ := timed.carried
      exact ⟨t, kin.getElem?_eq.trans there, .inr ⟨deadline, carries, come⟩⟩

/-- A token is left alone by what is done to the family of a token that has the flag in which two
pools may differ. -/
theorem cancelled_of_foreign {before since : List TokenOperation}
    (there : (run { now } before).apply op = p) (found : p.tokens[j]? = some u)
    (alike : AlikeBut u.flag p q) (foreign : ¬ Kin now (before ++ op :: since) i j) :
    (q.run since).cancelled[i]? = (run { now } (before ++ op :: since)).cancelled[i]? := by
  have split : run { now } (before ++ op :: since) = p.run since := by
    rw [run_append, ← there]
    rfl
  rw [split]
  refine (alike.run since).cancelled fun t here same => foreign ?_
  rw [← split] at here
  refine kin_of_flag_eq here ?_ same
  rw [split]
  exact getElem?_run found since

/-- Whether a token is cancelled does not depend on whether one of another family was. -/
theorem cancelled_without_cancel {before since : List TokenOperation}
    (foreign : ¬ Kin now (before ++ .cancel j :: since) i j) :
    (run { now } (before ++ since)).cancelled[i]? =
      (run { now } (before ++ .cancel j :: since)).cancelled[i]? := by
  rw [run_append]
  cases there : (run { now } before).tokens[j]? with
  | none =>
    have idle : (run { now } before).apply (.cancel j) = run { now } before := by
      rw [apply, there]
    rw [run_append]
    exact congrArg (fun p => (TokenPool.run p since).cancelled[i]?) idle.symm
  | some u =>
    have raised : (run { now } before).apply (.cancel j) =
        { run { now } before with flags := u.cancel (run { now } before).flags } := by
      rw [apply, there]
    refine cancelled_of_foreign raised there ⟨rfl, ?_, fun f other => ?_, ?_⟩ foreign
    · exact List.length_set.symm
    · exact (List.getElem?_set_ne other.symm).symm
    · exact List.forall₂_same.mpr fun _ _ => ⟨rfl, fun _ => rfl⟩

/-- Nor does it depend on the timeout that one of another family was made with. -/
theorem cancelled_without_timeout {before since : List TokenOperation} {limit : Duration}
    (foreign : ¬ Kin now (before ++ .withTimeout limit :: since) i
      (run { now } before).tokens.length) :
    (run { now } (before ++ .fresh :: since)).cancelled[i]? =
      (run { now } (before ++ .withTimeout limit :: since)).cancelled[i]? := by
  rw [run_append]
  refine cancelled_of_foreign rfl List.getElem?_concat_length ?_ foreign
  exact (AlikeBut.refl _ _).add fun apart => absurd rfl apart

/-- When tokens are cancelled, whatever was done to them in whatever order. A token is cancelled if
and only if one of its family was cancelled by hand, or the family was made with a timeout and its
end, if the clock can show it, has come. So the tokens of a family are cancelled together, what is
done to another family makes no difference, and a cancelled token stays so. -/
theorem cancelled_by_kin (now : Instant) (ops : List TokenOperation) :
    (∀ i, (run { now } ops).cancelled[i]? = some true ↔
      ∃ j, Kin now ops i j ∧ (IsStopped now ops j ∨
        ∃ deadline, HasDeadline now ops j deadline ∧
          deadline.nanos ≤ (run { now } ops).now.nanos)) ∧
    (∀ i j, Kin now ops i j →
      (run { now } ops).cancelled[i]? = (run { now } ops).cancelled[j]?) ∧
    (∀ before since i j, ops = before ++ .cancel j :: since → ¬ Kin now ops i j →
      (run { now } (before ++ since)).cancelled[i]? = (run { now } ops).cancelled[i]?) ∧
    (∀ before limit since i, ops = before ++ .withTimeout limit :: since →
      ¬ Kin now ops i (run { now } before).tokens.length →
      (run { now } (before ++ .fresh :: since)).cancelled[i]? =
        (run { now } ops).cancelled[i]?) ∧
    ∀ (i : Nat) more, (run { now } ops).cancelled[i]? = some true →
      (run { now } (ops ++ more)).cancelled[i]? = some true := by
  refine ⟨fun i => cancelled_iff_exists_kin, fun i j kin => ?_, ?_, ?_, fun i more stopped => ?_⟩
  · rw [getElem?_cancelled, getElem?_cancelled, kin.getElem?_eq]
  · rintro before since i j rfl foreign
    exact cancelled_without_cancel foreign
  · rintro before limit since i rfl foreign
    exact cancelled_without_timeout foreign
  · rw [run_append]
    exact cancelled_run stopped more

/-- A token with a timeout is copied, and so is the copy, after time has passed; a token of another
family is cancelled in between. When the timeout has ended all three are cancelled, and they would be
so without the other one. A timeout that ends beyond what the clock can show cancels nothing. -/
theorem cancelled_by_kin_late_copy :
    let ops : List TokenOperation :=
      [.withTimeout ⟨10⟩, .copy 0, .fresh, .pass ⟨9⟩, .copy 1, .withTimeout ⟨Instant.range⟩,
        .cancel 2, .pass ⟨1⟩]
    (run {} ops).cancelled = [true, true, true, true, false] ∧
      (∃ j, Kin ⟨0⟩ ops 3 j ∧ (IsStopped ⟨0⟩ ops j ∨
        ∃ deadline, HasDeadline ⟨0⟩ ops j deadline ∧ deadline.nanos ≤ 10)) ∧
      (run {} ops).cancelled[0]? = (run {} ops).cancelled[3]? ∧
      ¬ Kin ⟨0⟩ ops 4 2 ∧
      (run {} (ops.take 6 ++ ops.drop 7)).cancelled[4]? = (run {} ops).cancelled[4]? ∧
      (run {} (ops ++ [.fresh])).cancelled[3]? = some true := by
  intro ops
  obtain ⟨iff_kin, together, without, -, stays⟩ := cancelled_by_kin ⟨0⟩ ops
  have first : IsCopy ⟨0⟩ ops 0 1 := ⟨ops.take 1, .copy 0, ops.drop 2, rfl, rfl, by decide, rfl⟩
  have second : IsCopy ⟨0⟩ ops 1 3 := ⟨ops.take 4, .copy 1, ops.drop 5, rfl, rfl, by decide, rfl⟩
  have apart : ¬ Kin ⟨0⟩ ops 4 2 := by
    intro kin
    have same := together 4 2 kin
    revert same
    decide
  refine ⟨by decide, (iff_kin 3).mp (by decide), ?_, apart, ?_, stays 3 [.fresh] (by decide)⟩
  · exact together 0 3 (.trans _ _ _ (.rel _ _ first) (.rel _ _ second))
  · exact without _ _ 4 2 rfl apart

end Uplink.TokenPool
