import Uplink.Cli.Layout

/-!
# What printed lines look like

Keys are aligned by filling them with dots up to one byte more than the longest of them. A tree
counts its dots by a subtraction that breaks down if a key is too long. No key is: the width is the
maximum over the keys of the same tree, so every tree is printed. An aligned line has its width from
elsewhere and no such guarantee; its count of dots stops at zero.

## Main definitions

- `Layout.Longest`: how many bytes the longest of some keys takes.
- `Layout.Filled`: a line in which a key and its dots take so many bytes together.

## Main results

- `Layout.longest_keyWidth`: the width of some keys is that of the longest.
- `Layout.filled_aligned`, `Layout.aligned_of_lt`: a line with a key that fits the width, and one
  with a key that does not.
- `Layout.tree?_eq`: a tree is printed whatever its keys are.
- `Layout.length_tree`, `Layout.filled_tree`: it has one line for each pair, with the keys aligned.
-/

namespace Uplink.Layout

variable {keys : List String} {key value : String} {m n width : Nat}

/-! ## Widths -/

/-- The longest of some keys takes so many bytes; where there are no keys, that is zero. -/
structure Longest (keys : List String) (n : Nat) : Prop where
  bound : ∀ key ∈ keys, key.utf8ByteSize ≤ n
  reached : n = 0 ∨ ∃ key ∈ keys, key.utf8ByteSize = n

theorem Longest.le (a : Longest keys m) (b : Longest keys n) : m ≤ n := by
  obtain rfl | ⟨key, mem, rfl⟩ := a.reached
  · exact Nat.zero_le n
  · exact b.bound key mem

/-- Some keys have only one width. -/
theorem Longest.unique (a : Longest keys m) (b : Longest keys n) : m = n :=
  Nat.le_antisymm (a.le b) (b.le a)

theorem keyWidth_eq (keys : List String) :
    keyWidth keys = (keys.map String.utf8ByteSize).max?.getD 0 := by
  rw [keyWidth, ← List.foldl_map, List.foldl_max, Nat.zero_max]

/-- The width of some keys is that of the longest. -/
theorem longest_keyWidth (keys : List String) : Longest keys (keyWidth keys) := by
  rw [keyWidth_eq]
  refine ⟨fun key mem => List.le_max?_getD_of_mem (List.mem_map_of_mem mem), ?_⟩
  cases largest : (keys.map String.utf8ByteSize).max? with
  | none => exact .inl rfl
  | some n => exact .inr (List.mem_map.mp (List.max?_mem largest))

/-! ## Dots -/

/-- A line with a key behind a mark: the key and its dots take so many bytes together. -/
def Filled (mark key value : String) (n : Nat) (line : String) : Prop :=
  ∃ filling : String, (∀ c ∈ filling.toList, c = '.') ∧ (key ++ filling).utf8ByteSize = n ∧
    line = mark ++ key ++ filling ++ ": " ++ value

theorem utf8ByteSize_repeated (n : Nat) (c : Char) :
    (repeated n c).utf8ByteSize = n * c.utf8Size := by
  induction n with
  | zero => simp [repeated]
  | succ n ih =>
    rw [repeated] at ih ⊢
    rw [List.replicate_succ, String.ofList_cons, String.utf8ByteSize_append, ih,
      String.utf8ByteSize_singleton, Nat.succ_mul, Nat.add_comm]

/-- A key that fits the width takes one byte more than the width with its dots. -/
theorem utf8ByteSize_append_dots (fits : key.utf8ByteSize ≤ width) :
    (key ++ dots width key).utf8ByteSize = width + 1 := by
  have single : '.'.utf8Size = 1 := rfl
  rw [String.utf8ByteSize_append, dots, utf8ByteSize_repeated, single]
  omega

theorem eq_of_mem_dots {c : Char} (mem : c ∈ (dots width key).toList) : c = '.' := by
  rw [dots, repeated, String.toList_ofList] at mem
  exact List.eq_of_mem_replicate mem

/-- A key beyond the width has no dots. -/
theorem dots_of_lt (beyond : width < key.utf8ByteSize) : dots width key = "" := by
  have none : width + 1 - key.utf8ByteSize = 0 := by omega
  rw [dots, none]
  rfl

theorem filled_of_le (mark value : String) (fits : key.utf8ByteSize ≤ width) :
    Filled mark key value (width + 1) (mark ++ key ++ dots width key ++ ": " ++ value) :=
  ⟨dots width key, fun _ mem => eq_of_mem_dots mem, utf8ByteSize_append_dots fits, rfl⟩

/-! ## Aligned lines -/

/-- A row begins with its key and its dots. -/
theorem aligned_eq {width : Nat} {key start : String} (value : String)
    (front : "> " ++ (key ++ dots width key ++ ": ") = start) :
    aligned width key value = start ++ value := by
  rw [← front, aligned, status]
  exact String.append_assoc.symm

/-- A line with a key that fits the width. -/
theorem filled_aligned (value : String) (fits : key.utf8ByteSize ≤ width) :
    Filled "> " key value (width + 1) (aligned width key value) := by
  have parts : aligned width key value = "> " ++ key ++ dots width key ++ ": " ++ value :=
    aligned_eq value (by simp only [String.append_assoc])
  rw [parts]
  exact filled_of_le "> " value fits

/-- A line with a key beyond the width. -/
theorem aligned_of_lt (value : String) (beyond : width < key.utf8ByteSize) :
    aligned width key value = "> " ++ key ++ ": " ++ value :=
  aligned_eq value (by rw [dots_of_lt beyond, String.append_empty, String.append_assoc])

/-! ## Trees -/

/-- A line of a tree, with a key that fits the width. The last one has a mark of its own. -/
theorem filled_branch (last : Bool) (value : String) (fits : key.utf8ByteSize ≤ width) :
    Filled (if last then " └─ " else " ├─ ") key value (width + 1)
      (branch width last (key, value)) := by
  have mark : " " ++ (if last then "└─" else "├─") ++ " " = if last then " └─ " else " ├─ " := by
    cases last <;> rfl
  rw [branch, mark]
  exact filled_of_le _ _ fits

/-- There is one line for each pair, and only the last one closes the tree. -/
theorem getElem?_branches (width : Nat) (pairs : List (String × String)) (i : Nat) :
    (branches width pairs)[i]? = pairs[i]?.map (branch width (i + 1 == pairs.length)) := by
  induction pairs using branches.induct generalizing i with
  | case1 => rfl
  | case2 pair => cases i <;> rfl
  | case3 pair rest more ih =>
    have lines : branches width (pair :: rest) = branch width false pair :: branches width rest := by
      rw [branches]
      exact more
    cases i with
    | zero =>
      -- There are pairs behind the first one, so it does not close the tree.
      have inner : (0 + 1 == (pair :: rest).length) = false := by
        simpa using more
      rw [lines, inner]
      rfl
    | succ i =>
      rw [lines, List.getElem?_cons_succ, List.getElem?_cons_succ, ih, List.length_cons]
      simp

theorem branches_eq (width : Nat) (pairs : List (String × String)) :
    branches width pairs =
      pairs.zipIdx.map fun (pair, i) => branch width (i + 1 == pairs.length) pair := by
  refine List.ext_getElem? fun i => ?_
  rw [getElem?_branches, List.getElem?_map, List.getElem?_zipIdx]
  simp only [Option.map_map, Nat.zero_add]
  rfl

theorem length_tree (pairs : List (String × String)) : (tree pairs).length = pairs.length := by
  rw [tree, branches_eq, List.length_map, List.length_zipIdx]

/-- What a tree shows of a pair. -/
theorem filled_tree {pairs : List (String × String)} {i : Nat}
    (there : pairs[i]? = some (key, value)) :
    ∃ line, (tree pairs)[i]? = some line ∧
      Filled (if i + 1 = pairs.length then " └─ " else " ├─ ") key value
        (keyWidth (pairs.map (·.1)) + 1) line := by
  have mem : key ∈ pairs.map (·.1) := List.mem_map_of_mem (List.mem_of_getElem? there)
  have fits := (longest_keyWidth (pairs.map (·.1))).bound key mem
  have line : (tree pairs)[i]? =
      some (branch (keyWidth (pairs.map (·.1))) (i + 1 == pairs.length) (key, value)) := by
    rw [tree, getElem?_branches, there]
    rfl
  refine ⟨_, line, ?_⟩
  simpa using filled_branch (i + 1 == pairs.length) value fits

/-- What succeeds on every entry of a list succeeds on the list. -/
theorem mapM_eq_some {α β : Type} {f : α → Option β} {g : α → β} {l : List α}
    (all : ∀ a ∈ l, f a = some (g a)) : l.mapM f = some (l.map g) := by
  induction l with
  | nil => rfl
  | cons a l ih =>
    have rest := ih fun b mem => all b (List.mem_cons_of_mem a mem)
    rw [List.mapM_cons, all a List.mem_cons_self, rest]
    rfl

/-- A tree is printed whatever its keys are. Its width is the maximum over all of them, so that no
subtraction falls below zero. -/
theorem tree?_eq (pairs : List (String × String)) : tree? pairs = some (tree pairs) := by
  rw [tree?, tree, branches_eq]
  refine mapM_eq_some fun (pair, i) mem => ?_
  have key : pair.1 ∈ pairs.map (·.1) := List.mem_map_of_mem (List.fst_mem_of_mem_zipIdx mem)
  have fits := (longest_keyWidth (pairs.map (·.1))).bound pair.1 key
  exact if_pos (Nat.le_succ_of_le fits)

end Uplink.Layout
