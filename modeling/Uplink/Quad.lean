/-!
# Four bytes and the words they make

A quad is four bytes in a fixed order. Addresses read it as a word with the first byte lowest,
masks as a word with the first byte highest.

## Main definitions

- `Quad.lowFirst`, `Quad.ofLowFirst`: the word with the first byte in the low byte, and back.
- `Quad.highFirst`, `Quad.ofHighFirst`: the word with the first byte in the high byte, and back.
-/

namespace Uplink

/-- Four bytes, first to last. -/
structure Quad where
  a : UInt8
  b : UInt8
  c : UInt8
  d : UInt8
  deriving DecidableEq, Repr

namespace Quad

/-- The four bytes in order. -/
def toList (q : Quad) : List UInt8 := [q.a, q.b, q.c, q.d]

/-- The bytes in the opposite order. -/
def reverse (q : Quad) : Quad := ⟨q.d, q.c, q.b, q.a⟩

/-- The word with the first byte in its low byte. -/
def lowFirst (q : Quad) : UInt32 :=
  q.a.toUInt32 ||| (q.b.toUInt32 <<< 8) ||| (q.c.toUInt32 <<< 16) ||| (q.d.toUInt32 <<< 24)

/-- The bytes of a word, low byte first. -/
def ofLowFirst (w : UInt32) : Quad :=
  ⟨w.toUInt8, (w >>> 8).toUInt8, (w >>> 16).toUInt8, (w >>> 24).toUInt8⟩

/-- The word with the first byte in its high byte. -/
def highFirst (q : Quad) : UInt32 := q.reverse.lowFirst

/-- The bytes of a word, high byte first. -/
def ofHighFirst (w : UInt32) : Quad := (ofLowFirst w).reverse

@[simp] theorem reverse_reverse (q : Quad) : q.reverse.reverse = q := rfl

end Quad

end Uplink
