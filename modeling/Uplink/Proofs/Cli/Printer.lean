import Uplink.Cli.Printer
import Uplink.Proofs.Cli.Layout
import Uplink.Proofs.Runs

/-!
# What a printer prints

A printer gets through every step: the only one that could break down is a tree, and a tree never
does. So the width of keys that a step finds is always the one that was told last, however much was
printed since. What is said of lines here is said of them as they are handed to the log, which
spells out control characters.

## Main results

- `Printer.exists_run?`: a printer gets through whatever it is asked for.
- `Printer.keyWidth_run?`: only `fit` changes the width of keys.
- `Printer.run?_table`: a table is the width of its keys and then its rows.
- `Printer.keys_line_up`: in trees and in aligned lines, keys and dots end at the same place.
-/

namespace Uplink.Printer

open Layout (Longest Filled)

variable {p q : Printer} {steps : List Step}

/-- A printer after one step after the other, if it gets through. -/
def run? (p : Printer) (steps : List Step) : Option Printer := runFrom? step? p steps

/-- There are lines for every step. -/
theorem exists_lines? (width : Nat) (s : Step) : ∃ lines, s.lines? width = some lines := by
  cases s with
  | tree pairs => exact ⟨_, Layout.tree?_eq pairs⟩
  | _ => exact ⟨_, rfl⟩

theorem exists_step? (p : Printer) (s : Step) :
    ∃ lines, p.step? s = some ⟨s.widthAfter p.keyWidth, p.lines ++ lines⟩ := by
  obtain ⟨lines, shown⟩ := exists_lines? p.keyWidth s
  exact ⟨lines, by rw [step?, shown, Option.map_some]⟩

/-- A printer gets through whatever it is asked for. -/
theorem exists_run? (p : Printer) (steps : List Step) : ∃ q, p.run? steps = some q := by
  induction steps generalizing p with
  | nil => exact ⟨p, rfl⟩
  | cons s steps ih =>
    obtain ⟨lines, first⟩ := exists_step? p s
    obtain ⟨q, rest⟩ := ih ⟨s.widthAfter p.keyWidth, p.lines ++ lines⟩
    exact ⟨q, runFrom?_cons_eq_some.mpr ⟨_, first, rest⟩⟩

/-- Only `fit` changes the width of keys. -/
theorem keyWidth_step? {s : Step} (step : p.step? s = some q) (other : ∀ keys, s ≠ .fit keys) :
    q.keyWidth = p.keyWidth := by
  obtain ⟨lines, same⟩ := exists_step? p s
  cases step.symm.trans same
  cases s with
  | fit keys => exact absurd rfl (other keys)
  | _ => rfl

theorem keyWidth_run? (run : p.run? steps = some q) (others : ∀ keys, .fit keys ∉ steps) :
    q.keyWidth = p.keyWidth :=
  runFrom?_preserves (fun s => ∀ keys, s ≠ .fit keys) (fun r => r.keyWidth = p.keyWidth)
    (fun kept other step => (keyWidth_step? step other).trans kept) run
    (fun _ mem keys same => others keys (same ▸ mem)) rfl

theorem step?_fit (p : Printer) (keys : List String) :
    p.step? (.fit keys) = some { p with keyWidth := Layout.keyWidth keys } := by
  simp [step?, Step.lines?, Step.widthAfter]

theorem step?_aligned (p : Printer) (key value : String) :
    p.step? (.aligned key value) =
      some { p with lines := p.lines ++ [Layout.aligned p.keyWidth key value] } := rfl

theorem step?_tree (p : Printer) (pairs : List (String × String)) :
    p.step? (.tree pairs) = some { p with lines := p.lines ++ Layout.tree pairs } := by
  have shown : (Step.tree pairs).lines? p.keyWidth = some (Layout.tree pairs) :=
    Layout.tree?_eq pairs
  rw [step?, shown]
  rfl

theorem run?_aligned (p : Printer) (rows : List (String × String)) :
    p.run? (rows.map fun (key, value) => .aligned key value) =
      some { p with lines :=
        p.lines ++ rows.map fun (key, value) => Layout.aligned p.keyWidth key value } := by
  induction rows generalizing p with
  | nil => simp [run?]
  | cons row rows ih =>
    refine runFrom?_cons_eq_some.mpr ⟨_, p.step?_aligned row.1 row.2, (ih _).trans ?_⟩
    simp only [List.map_cons, List.append_assoc, List.singleton_append]

/-- A table is the width of its keys and then its rows. -/
theorem run?_table (p : Printer) (rows : List (String × String)) :
    p.run? (.fit (rows.map (·.1)) :: rows.map fun (key, value) => .aligned key value) =
      some ⟨Layout.keyWidth (rows.map (·.1)), p.lines ++ Layout.table rows⟩ :=
  runFrom?_cons_eq_some.mpr ⟨_, p.step?_fit _, run?_aligned _ rows⟩

/-- Keys line up, whatever was printed before. A tree is printed for every list of pairs: one line
for each of them in order, in which the key and its dots take one byte more than the longest key,
and only the last line closes the tree. Where the width of some keys was told last, whatever was
printed since, a line with any of these keys is printed with dots up to one byte more than the
longest, and one with a longer key is printed without dots. -/
theorem keys_line_up (p : Printer) :
    (∀ pairs : List (String × String), ∃ n lines, Longest (pairs.map (·.1)) n ∧
      p.step? (.tree pairs) = some { p with lines := p.lines ++ lines } ∧
      lines.length = pairs.length ∧
      ∀ i key value, pairs[i]? = some (key, value) → ∃ line, lines[i]? = some line ∧
        Filled (if i + 1 = pairs.length then " └─ " else " ├─ ") key value (n + 1) line) ∧
    ∀ (keys : List String) (steps : List Step), (∀ others, .fit others ∉ steps) →
      ∃ n q, Longest keys n ∧ p.run? (.fit keys :: steps) = some q ∧
        ∀ key value, ∃ line,
          q.step? (.aligned key value) = some { q with lines := q.lines ++ [line] } ∧
          (key ∈ keys → Filled "> " key value (n + 1) line) ∧
          (n < key.utf8ByteSize → line = "> " ++ key ++ ": " ++ value) := by
  refine ⟨fun pairs => ?_, fun keys steps others => ?_⟩
  · exact ⟨_, Layout.tree pairs, Layout.longest_keyWidth _, p.step?_tree pairs,
      Layout.length_tree pairs, fun i key value there => Layout.filled_tree there⟩
  · have longest := Layout.longest_keyWidth keys
    obtain ⟨q, run⟩ := p.exists_run? (.fit keys :: steps)
    obtain ⟨told, first, rest⟩ := runFrom?_cons_eq_some.mp run
    have left : q.keyWidth = Layout.keyWidth keys := by
      cases (p.step?_fit keys).symm.trans first
      exact keyWidth_run? rest others
    refine ⟨_, q, longest, run, fun key value =>
      ⟨_, q.step?_aligned key value, fun mem => ?_, fun beyond => ?_⟩⟩
    · rw [left]
      exact Layout.filled_aligned value (longest.bound key mem)
    · rw [left]
      exact Layout.aligned_of_lt value beyond

/-- A tree with a letter of two bytes and a key without letters; and a width of keys that a tree in
between leaves as it is, with a key that is longer by one byte. -/
theorem keys_line_up_past_tree :
    let pairs := [("Größe", "1"), ("", "2")]
    let keys := ["Status", "Config"]
    let steps : List Step := [.tree pairs, .aligned "Config" "dhcp"]
    (∀ others, .fit others ∉ steps) ∧
    (∃ lines, step? {} (.tree pairs) = some { lines } ∧ lines.length = 2 ∧
      (∃ line, lines[0]? = some line ∧ Filled " ├─ " "Größe" "1" 8 line) ∧
      ∃ line, lines[1]? = some line ∧ Filled " └─ " "" "2" 8 line) ∧
    ∃ q, run? {} (.fit keys :: steps) = some q ∧
      (∃ line, q.step? (.aligned "Status" "ready") =
          some { q with lines := q.lines ++ [line] } ∧ Filled "> " "Status" "ready" 7 line) ∧
      q.step? (.aligned "Elapsed" "3s") =
        some { q with lines := q.lines ++ ["> Elapsed: 3s"] } := by
  intro pairs keys steps
  have others : ∀ others, Step.fit others ∉ steps := fun others mem => by simp [steps] at mem
  obtain ⟨trees, rows⟩ := keys_line_up {}
  refine ⟨others, ?_, ?_⟩
  · obtain ⟨n, lines, longest, shown, length, filled⟩ := trees pairs
    obtain rfl : n = 7 := longest.unique ⟨by decide, .inr ⟨"Größe", by decide, by decide⟩⟩
    exact ⟨lines, shown, length, filled 0 "Größe" "1" rfl, filled 1 "" "2" rfl⟩
  · obtain ⟨n, q, longest, run, aligned⟩ := rows keys steps others
    obtain rfl : n = 6 := longest.unique ⟨by decide, .inr ⟨"Status", by decide, by decide⟩⟩
    obtain ⟨line, shown, filled, -⟩ := aligned "Status" "ready"
    obtain ⟨longer, shown', -, bare⟩ := aligned "Elapsed" "3s"
    obtain rfl : longer = "> Elapsed: 3s" := bare (by decide)
    exact ⟨q, run, ⟨line, shown, filled (by decide)⟩, shown'⟩

end Uplink.Printer
