import Mathlib.Data.Nat.Bitwise
import Uplink.Address.Basic
import Uplink.Buffer.Basic

/-!
# Words made of bytes

Tags and ports are made of two bytes, packed addresses of four. The definitions put them together
with shifts. What is proved of them rests on their values: a word made of bytes is the number that
has these bytes as its digits to the base 256, the lowest first, and the bytes of a word are the
digits of its value. Both directions of every codec follow from that by arithmetic.

## Main results

- `Buffer.toNat_codeOf`, `Quad.toNat_lowFirst`: words are numbers to the base 256.
- `Buffer.codeOf_bytes`, `Buffer.bytes_codeOf`: two bytes and their word determine each other.
- `Quad.lowFirst_ofLowFirst`, `Quad.ofLowFirst_lowFirst`: so do four bytes and theirs.
- `Address.octets_ofOctets`, `Address.ofOctets_octets`: so do an IPv4 address and its octets.
-/

namespace Uplink

/-- A number written behind lower digits is added to them. -/
theorem or_shiftLeft_of_lt {low : Nat} (high : Nat) {k : Nat} (fits : low < 2 ^ k) :
    low ||| high <<< k = low + 2 ^ k * high := by
  rw [Nat.lor_comm, ← Nat.shiftLeft_add_eq_or_of_lt fits, Nat.shiftLeft_eq, Nat.add_comm,
    Nat.mul_comm]

namespace Buffer

/-- A word of two bytes is a number of two digits. -/
theorem toNat_codeOf (low high : UInt8) :
    (codeOf low high).toNat = low.toNat + 256 * high.toNat := by
  have fits : low.toNat < 2 ^ 8 := low.toNat_lt
  have bound : high.toNat < 2 ^ 8 := high.toNat_lt
  have shifted : high.toNat <<< 8 % 2 ^ 16 = high.toNat <<< 8 := by
    rw [Nat.shiftLeft_eq]
    omega
  simp only [codeOf, UInt16.toNat_or, UInt16.toNat_shiftLeft, UInt8.toNat_toUInt16]
  exact (congrArg (low.toNat ||| ·) shifted).trans (or_shiftLeft_of_lt _ fits)

/-- A word is that of its bytes. -/
theorem codeOf_bytes (w : UInt16) : codeOf w.toUInt8 (w >>> 8).toUInt8 = w := by
  have bound : w.toNat < 2 ^ 16 := w.toNat_lt
  apply UInt16.toNat_inj.mp
  rw [toNat_codeOf, UInt16.toNat_toUInt8, UInt16.toNat_toUInt8, UInt16.toNat_shiftRight]
  show w.toNat % 256 + 256 * (w.toNat >>> 8 % 256) = w.toNat
  rw [Nat.shiftRight_eq_div_pow]
  omega

/-- Bytes are those of their word. -/
theorem bytes_codeOf (low high : UInt8) :
    (codeOf low high).toUInt8 = low ∧ ((codeOf low high) >>> 8).toUInt8 = high := by
  have low_lt : low.toNat < 2 ^ 8 := low.toNat_lt
  have high_lt : high.toNat < 2 ^ 8 := high.toNat_lt
  constructor
  · apply UInt8.toNat_inj.mp
    rw [UInt16.toNat_toUInt8, toNat_codeOf]
    omega
  · apply UInt8.toNat_inj.mp
    rw [UInt16.toNat_toUInt8, UInt16.toNat_shiftRight, toNat_codeOf]
    show (low.toNat + 256 * high.toNat) >>> 8 % 256 = high.toNat
    rw [Nat.shiftRight_eq_div_pow]
    omega

end Buffer

namespace Quad

/-- A word of four bytes is a number of four digits. -/
theorem toNat_lowFirst (q : Quad) :
    q.lowFirst.toNat = q.a.toNat + 2 ^ 8 * q.b.toNat + 2 ^ 16 * q.c.toNat + 2 ^ 24 * q.d.toNat := by
  have a_lt : q.a.toNat < 2 ^ 8 := q.a.toNat_lt
  have b_lt : q.b.toNat < 2 ^ 8 := q.b.toNat_lt
  have c_lt : q.c.toNat < 2 ^ 8 := q.c.toNat_lt
  have d_lt : q.d.toNat < 2 ^ 8 := q.d.toNat_lt
  have shifted {n k : Nat} (fits : n * 2 ^ k < 2 ^ 32) : n <<< k % 2 ^ 32 = n <<< k := by
    rw [Nat.shiftLeft_eq, Nat.mod_eq_of_lt fits]
  simp only [lowFirst, UInt32.toNat_or, UInt32.toNat_shiftLeft, UInt8.toNat_toUInt32]
  show q.a.toNat ||| q.b.toNat <<< 8 % 2 ^ 32 ||| q.c.toNat <<< 16 % 2 ^ 32 |||
    q.d.toNat <<< 24 % 2 ^ 32 = _
  rw [shifted (by omega), shifted (by omega), shifted (by omega),
    or_shiftLeft_of_lt q.b.toNat a_lt, or_shiftLeft_of_lt q.c.toNat (by omega),
    or_shiftLeft_of_lt q.d.toNat (by omega)]

/-- The bytes of a word are the digits of its value. -/
theorem toNat_ofLowFirst (w : UInt32) :
    (ofLowFirst w).a.toNat = w.toNat % 2 ^ 8 ∧ (ofLowFirst w).b.toNat = w.toNat / 2 ^ 8 % 2 ^ 8 ∧
      (ofLowFirst w).c.toNat = w.toNat / 2 ^ 16 % 2 ^ 8 ∧
      (ofLowFirst w).d.toNat = w.toNat / 2 ^ 24 % 2 ^ 8 := by
  refine ⟨UInt32.toNat_toUInt8 w, ?_, ?_, ?_⟩
  all_goals
    simp only [ofLowFirst, UInt32.toNat_toUInt8, UInt32.toNat_shiftRight,
      Nat.shiftRight_eq_div_pow]
    rfl

/-- A word is that of its bytes. -/
theorem lowFirst_ofLowFirst (w : UInt32) : (ofLowFirst w).lowFirst = w := by
  have bound : w.toNat < 2 ^ 32 := w.toNat_lt
  obtain ⟨a, b, c, d⟩ := toNat_ofLowFirst w
  apply UInt32.toNat_inj.mp
  rw [toNat_lowFirst, a, b, c, d]
  omega

/-- Bytes are those of their word. -/
theorem ofLowFirst_lowFirst (q : Quad) : ofLowFirst q.lowFirst = q := by
  have a_lt : q.a.toNat < 2 ^ 8 := q.a.toNat_lt
  have b_lt : q.b.toNat < 2 ^ 8 := q.b.toNat_lt
  have c_lt : q.c.toNat < 2 ^ 8 := q.c.toNat_lt
  have d_lt : q.d.toNat < 2 ^ 8 := q.d.toNat_lt
  obtain ⟨a, b, c, d⟩ := toNat_ofLowFirst q.lowFirst
  rw [toNat_lowFirst] at a b c d
  obtain ⟨qa, qb, qc, qd⟩ := q
  rw [Quad.mk.injEq]
  refine ⟨UInt8.toNat_inj.mp (a.trans ?_), UInt8.toNat_inj.mp (b.trans ?_),
    UInt8.toNat_inj.mp (c.trans ?_), UInt8.toNat_inj.mp (d.trans ?_)⟩
  all_goals
    dsimp only at *
    omega

end Quad

namespace Address

/-- The octets that an IPv4 address was made of. -/
theorem octets_ofOctets (q : Quad) : (ofOctets q).octets = q := q.ofLowFirst_lowFirst

/-- Only zero octets make no address. -/
theorem isAny_ofOctets {q : Quad} : (ofOctets q).isAny = true ↔ q = ⟨0, 0, 0, 0⟩ := by
  rw [isAny, beq_iff_eq]
  constructor
  · intro zero
    have octets := octets_ofOctets q
    rw [Address.octets, zero] at octets
    exact octets.symm
  · rintro rfl
    rfl

/-- An IPv4 address is made of its octets. -/
theorem ofOctets_octets {a : Address} (internet : a.family = .internet) :
    ofOctets a.octets = a := by
  obtain ⟨family, value⟩ := a
  cases internet
  exact congrArg (Address.mk .internet) (Quad.lowFirst_ofLowFirst value)

end Address

end Uplink
