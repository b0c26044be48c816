/-!
# How deep a pattern nests

A row of parts is as deep as its deepest part, and one deeper if there are several of them.

## Main definitions

- `Row`: how many parts there are, and how deep the deepest one is.
- `Row.depth`: how deep the whole row is.
-/

namespace Uplink.Pattern

/-- A row of parts, as far as its depth depends on them. -/
structure Row where
  count : Nat := 0
  deepest : Nat := 0
  deriving DecidableEq, Repr

namespace Row

/-- The row with one more part of a depth. -/
def push (r : Row) (depth : Nat) : Row := ⟨r.count + 1, max r.deepest depth⟩

/-- The row of parts of given depths. -/
def ofDepths (depths : List Nat) : Row := depths.foldl push {}

/-- How deep a row is. -/
def depth (r : Row) : Nat := if r.count ≤ 1 then r.deepest else r.deepest + 1

/-- A single part is as deep alone as in its row. -/
@[simp] theorem depth_ofDepths_singleton (d : Nat) : (ofDepths [d]).depth = d := by
  simp [ofDepths, push, depth]

end Row

end Uplink.Pattern
