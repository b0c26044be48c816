/-!
# Entries of a list

Threads are kept in a list. Now and then one of them is replaced, and a new one comes in at the end;
places are never given up. These are the laws of looking such a list up.
-/

namespace Uplink

variable {α : Type} {l m : List α} {a b : α} {o : Option α} {i j : Nat}

/-- What comes in at the end changes nobody's place. -/
theorem getElem?_append_of_some (present : l[j]? = some b) : (l ++ m)[j]? = some b := by
  rw [List.getElem?_append_left (List.getElem?_eq_some_iff.mp present).1]
  exact present

/-- An entry was there before or is the one that came in. -/
theorem getElem?_concat (found : (l ++ [a])[j]? = some b) :
    l[j]? = some b ∨ (j = l.length ∧ b = a) := by
  rcases Nat.lt_or_ge j l.length with inside | outside
  · rw [List.getElem?_append_left inside] at found
    exact .inl found
  · have bound := (List.getElem?_eq_some_iff.mp found).1
    have last : j = l.length := by
      simp only [List.length_append, List.length_cons, List.length_nil] at bound
      omega
    subst last
    rw [List.getElem?_concat_length] at found
    exact .inr ⟨rfl, (Option.some.inj found).symm⟩

/-- Who stands among the first. -/
theorem getElem?_take_eq_some {n : Nat} : (l.take n)[i]? = some a ↔ i < n ∧ l[i]? = some a := by
  rw [List.getElem?_take]
  split
  · rename_i inside
    simp [inside]
  · rename_i outside
    simp [outside]

/-- All entries are of a kind if those before are and the one that came in is. -/
theorem forall_mem_concat {P : α → Prop} (before : ∀ b ∈ l, P b) (new : P a) :
    ∀ b ∈ l ++ [a], P b := by
  intro b mem
  rcases List.mem_append.mp mem with old | last
  · exact before b old
  · rw [List.mem_singleton.mp last]
    exact new

/-- All entries are of a kind if one is and all others are. -/
theorem forall_mem_of_ne {P : α → Prop} (present : l[i]? = some a) (own : P a)
    (others : ∀ j b, j ≠ i → l[j]? = some b → P b) : ∀ b ∈ l, P b := by
  intro b mem
  obtain ⟨j, found⟩ := List.mem_iff_getElem?.mp mem
  by_cases same : j = i
  · subst same
    cases present.symm.trans found
    exact own
  · exact others j b same found

/-! ## One entry replaced, and at most one that comes in -/

theorem getElem?_set_append_self (present : l[i]? = some b) :
    (l.set i a ++ o.toList)[i]? = some a := by
  have bound := (List.getElem?_eq_some_iff.mp present).1
  rw [List.getElem?_append_left (by simpa using bound), List.getElem?_set_self bound]

theorem getElem?_set_append_of_ne (present : l[j]? = some b) (other : j ≠ i) :
    (l.set i a ++ o.toList)[j]? = some b := by
  have bound := (List.getElem?_eq_some_iff.mp present).1
  rw [List.getElem?_append_left (by simpa using bound), List.getElem?_set_ne other.symm]
  exact present

theorem getElem?_set_append_last (l : List α) (i : Nat) (a b : α) :
    (l.set i a ++ (some b).toList)[l.length]? = some b := by
  rw [List.getElem?_append_right (by simp)]
  simp

/-- An entry was put in its place, was there before, or came in at the end. -/
theorem getElem?_set_append (found : (l.set i a ++ o.toList)[j]? = some b) :
    (j = i ∧ b = a) ∨ (j ≠ i ∧ l[j]? = some b) ∨ (j = l.length ∧ o = some b) := by
  have before (inside : (l.set i a)[j]? = some b) :
      (j = i ∧ b = a) ∨ (j ≠ i ∧ l[j]? = some b) := by
    rw [List.getElem?_set] at inside
    split at inside
    · rename_i same
      split at inside
      · exact .inl ⟨same.symm, (Option.some.inj inside).symm⟩
      · cases inside
    · rename_i other
      exact .inr ⟨Ne.symm other, inside⟩
  cases o with
  | none =>
    rw [Option.toList_none, List.append_nil] at found
    exact (before found).imp_right .inl
  | some c =>
    rcases getElem?_concat found with old | ⟨last, rfl⟩
    · exact (before old).imp_right .inl
    · exact .inr (.inr ⟨last.trans List.length_set, rfl⟩)

/-- Behind the first `n` entries an entry is replaced and at most one comes in. -/
theorem map_drop_set_append {β : Type} (f : α → β) {n : Nat} (bound : n ≤ l.length) :
    ((l.set (n + i) a ++ o.toList).drop n).map f =
      ((l.drop n).map f).set i (f a) ++ (o.map f).toList := by
  have inside : n ≤ (l.set (n + i) a).length := by simpa using bound
  rw [List.drop_append_of_le_length inside, List.drop_set, if_neg (by omega),
    Nat.add_sub_cancel_left, List.map_append, List.map_set]
  cases o <;> rfl

/-- A fold stays where it is if no entry moves it. -/
theorem foldl_eq_self {β : Type} {f : β → α → β} {x : β} (still : ∀ a ∈ l, f x a = x) :
    l.foldl f x = x := by
  induction l with
  | nil => rfl
  | cons a l ih =>
    rw [List.foldl_cons, still a List.mem_cons_self]
    exact ih fun b mem => still b (List.mem_cons_of_mem a mem)

/-! ## How many entries have a property -/

/-- One entry is replaced and at most one comes in: what this does to a count. -/
theorem countP_set_append (p : α → Bool) (present : l[i]? = some b) :
    (l.set i a ++ o.toList).countP p + (p b).toNat =
      l.countP p + (p a).toNat + o.toList.countP p := by
  obtain ⟨bound, rfl⟩ := List.getElem?_eq_some_iff.mp present
  rw [List.countP_append, List.countP_set bound]
  cases here : p l[i] with
  | false => cases p a <;> simp
  | true =>
    have counted : 0 < l.countP p := List.countP_pos_iff.mpr ⟨_, List.getElem_mem bound, here⟩
    cases p a <;> simp <;> omega

/-- If at most one entry has a property, two places that have it are the same. -/
theorem eq_of_countP_le_one {p : α → Bool} (few : l.countP p ≤ 1) (first : l[i]? = some a)
    (second : l[j]? = some b) (has : p a = true) (has' : p b = true) : i = j := by
  induction l generalizing i j with
  | nil => cases first
  | cons c l ih =>
    have none_behind (here : p c = true) {k : Nat} {d : α} (there : l[k]? = some d) :
        p d ≠ true := by
      rw [List.countP_cons, if_pos here] at few
      exact List.countP_eq_zero.mp (by omega) d (List.mem_of_getElem? there)
    rcases i with _ | i <;> rcases j with _ | j
    · rfl
    · cases first
      exact (none_behind has second has').elim
    · cases second
      exact (none_behind has' first has).elim
    · have fewer : l.countP p ≤ 1 := by
        rw [List.countP_cons] at few
        omega
      exact congrArg Nat.succ (ih fewer first second)

end Uplink
