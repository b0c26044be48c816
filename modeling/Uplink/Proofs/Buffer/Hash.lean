import Uplink.Buffer.Hash
import Uplink.Proofs.Words

/-!
# The lanes of the fold hash

The hash is computed in words, with the last one filled up. Read byte by byte there are no words in
it: each of its four bytes is the exclusive or of every fourth byte of the buffer, and a sequence
that is appended goes on in the lane that comes next. So what can be said of the hash is said of the
exclusive or of a few bytes.

## Main definitions

- `Buffer.byteOf`: a byte of a word.
- `Buffer.lane`: every fourth byte of a sequence.
- `Buffer.DifferOnlyAt`: two sequences of one length are the same but for one place.

## Main results

- `Buffer.byteOf_foldHash`: each byte of the hash is the exclusive or of a lane.
- `Buffer.foldHash_eq_iff`: two sequences have one hash exactly if their lanes agree.
- `Buffer.foldHash_lanes`: the hash and its laws.
-/

namespace Uplink.Buffer

/-- A byte of a word, the lowest one being byte zero. -/
def byteOf (w : UInt32) (j : Nat) : UInt8 := (w >>> UInt32.ofNat (8 * j)).toUInt8

/-- The exclusive or of bytes. -/
def xorAll (bytes : List UInt8) : UInt8 := bytes.foldr (· ^^^ ·) 0

/-- The bytes whose place leaves the remainder `j` when divided by four. The first byte has the
place `start`. -/
def lane (j start : Nat) (bytes : List UInt8) : List UInt8 :=
  ((bytes.zipIdx start).filter fun p => p.2 % 4 = j).map Prod.fst

variable {j start : Nat} {bytes other : List UInt8}

/-! ## Bytes of words -/

theorem byteOf_xor (v w : UInt32) (j : Nat) : byteOf (v ^^^ w) j = byteOf v j ^^^ byteOf w j := by
  rw [byteOf, UInt32.shiftRight_xor, UInt32.toUInt8_xor, byteOf, byteOf]

/-- The bytes of a word are those that it was made of. -/
theorem byteOf_lowFirst (q : Quad) :
    byteOf q.lowFirst 0 = q.a ∧ byteOf q.lowFirst 1 = q.b ∧ byteOf q.lowFirst 2 = q.c ∧
      byteOf q.lowFirst 3 = q.d := by
  have bytes := q.ofLowFirst_lowFirst
  refine ⟨?_, congrArg Quad.b bytes, congrArg Quad.c bytes, congrArg Quad.d bytes⟩
  rw [byteOf, Nat.mul_zero]
  exact (congrArg UInt32.toUInt8 UInt32.shiftRight_zero).trans (congrArg Quad.a bytes)

/-- A word is determined by its four bytes. -/
theorem eq_iff_byteOf {v w : UInt32} :
    v = w ↔ byteOf v 0 = byteOf w 0 ∧ byteOf v 1 = byteOf w 1 ∧ byteOf v 2 = byteOf w 2 ∧
      byteOf v 3 = byteOf w 3 := by
  constructor
  · rintro rfl
    exact ⟨rfl, rfl, rfl, rfl⟩
  · intro same
    rw [← Quad.lowFirst_ofLowFirst v, ← Quad.lowFirst_ofLowFirst w] at same ⊢
    obtain ⟨a, b, c, d⟩ := byteOf_lowFirst (.ofLowFirst v)
    obtain ⟨a', b', c', d'⟩ := byteOf_lowFirst (.ofLowFirst w)
    rw [a, b, c, d, a', b', c', d'] at same
    exact congrArg Quad.lowFirst (Quad.mk.injEq .. ▸ same)

theorem eq_of_byteOf {v w : UInt32} (same : ∀ j < 4, byteOf v j = byteOf w j) : v = w :=
  eq_iff_byteOf.mpr ⟨same 0 (by decide), same 1 (by decide), same 2 (by decide), same 3 (by decide)⟩

/-! ## Lanes -/

theorem xorAll_append (bytes other : List UInt8) :
    xorAll (bytes ++ other) = xorAll bytes ^^^ xorAll other := by
  induction bytes with
  | nil => exact UInt8.zero_xor.symm
  | cons b bytes ih =>
    show b ^^^ xorAll (bytes ++ other) = b ^^^ xorAll bytes ^^^ xorAll other
    rw [ih, UInt8.xor_assoc]

theorem lane_append (j start : Nat) (bytes other : List UInt8) :
    lane j start (bytes ++ other) = lane j start bytes ++ lane j (start + bytes.length) other := by
  rw [lane, List.zipIdx_append, List.filter_append, List.map_append, lane, lane]

theorem lane_cons (j start : Nat) (b : UInt8) (bytes : List UInt8) :
    lane j start (b :: bytes) =
      (if start % 4 = j then [b] else []) ++ lane j (start + 1) bytes := by
  rw [lane, List.zipIdx_cons, List.filter_cons, lane]
  split <;> simp_all

/-- Only the remainder of the first place counts. -/
theorem lane_congr {start' : Nat} (same : start % 4 = start' % 4) (bytes : List UInt8) :
    lane j start bytes = lane j start' bytes := by
  induction bytes generalizing start start' with
  | nil => rfl
  | cons b bytes ih =>
    have next : (start + 1) % 4 = (start' + 1) % 4 := by omega
    rw [lane_cons, lane_cons, same, ih next]

/-- Zeros count for nothing, in whichever lane they are. -/
theorem xorAll_lane_zeros (j start n : Nat) : xorAll (lane j start (.replicate n 0)) = 0 := by
  induction n generalizing start with
  | zero => rfl
  | succ n ih =>
    rw [List.replicate_succ, lane_cons, xorAll_append, ih, UInt8.xor_zero]
    split <;> rfl

theorem xorAll_lane_append_zeros (j : Nat) (bytes : List UInt8) (n : Nat) :
    xorAll (lane j 0 (bytes ++ .replicate n 0)) = xorAll (lane j 0 bytes) := by
  rw [lane_append, xorAll_append, xorAll_lane_zeros, UInt8.xor_zero]

/-! ## The hash -/

theorem foldHash_cons (a b c d : UInt8) (rest : List UInt8) :
    foldHash ⟨a :: b :: c :: d :: rest⟩ = (Quad.mk a b c d).lowFirst ^^^ foldHash ⟨rest⟩ := by
  show List.foldl (· ^^^ ·) (0 ^^^ (Quad.mk a b c d).lowFirst) (words rest) = _
  rw [UInt32.xor_comm, List.foldl_assoc]
  rfl

theorem foldHash_word (a b c d : UInt8) :
    foldHash ⟨[a, b, c, d]⟩ = (Quad.mk a b c d).lowFirst := UInt32.zero_xor

/-- Of a whole word each lane has one byte. -/
theorem byteOf_foldHash_word (a b c d : UInt8) (small : j < 4) :
    byteOf (foldHash ⟨[a, b, c, d]⟩) j = xorAll (lane j 0 [a, b, c, d]) := by
  obtain ⟨first, second, third, fourth⟩ := byteOf_lowFirst ⟨a, b, c, d⟩
  rw [foldHash_word]
  match j, small with
  | 0, _ => exact first.trans UInt8.xor_zero.symm
  | 1, _ => exact second.trans UInt8.xor_zero.symm
  | 2, _ => exact third.trans UInt8.xor_zero.symm
  | 3, _ => exact fourth.trans UInt8.xor_zero.symm

/-- Each byte of the hash is the exclusive or of a lane. -/
theorem byteOf_foldHash (bytes : List UInt8) (small : j < 4) :
    byteOf (foldHash ⟨bytes⟩) j = xorAll (lane j 0 bytes) := by
  induction bytes using words.induct with
  | case1 a b c d rest ih =>
    have behind : lane j 4 rest = lane j 0 rest := lane_congr (Nat.mod_self 4) rest
    have front := byteOf_foldHash_word a b c d small
    rw [foldHash_word] at front
    rw [foldHash_cons, byteOf_xor, front, ih, ← behind, ← xorAll_append]
    exact congrArg xorAll (lane_append j 0 [a, b, c, d] rest).symm
  -- What is left over has the same hash as the word that it is filled up to.
  | case2 a b c =>
    exact (byteOf_foldHash_word a b c 0 small).trans (xorAll_lane_append_zeros j [a, b, c] 1)
  | case3 a b =>
    exact (byteOf_foldHash_word a b 0 0 small).trans (xorAll_lane_append_zeros j [a, b] 2)
  | case4 a =>
    exact (byteOf_foldHash_word a 0 0 0 small).trans (xorAll_lane_append_zeros j [a] 3)
  | case5 => exact (byteOf_foldHash_word 0 0 0 0 small).trans (xorAll_lane_append_zeros j [] 4)

/-- Two sequences have one hash exactly if their lanes agree. -/
theorem foldHash_eq_iff :
    foldHash ⟨bytes⟩ = foldHash ⟨other⟩ ↔
      ∀ j < 4, xorAll (lane j 0 bytes) = xorAll (lane j 0 other) := by
  constructor
  · intro same j small
    rw [← byteOf_foldHash bytes small, ← byteOf_foldHash other small, same]
  · intro same
    refine eq_of_byteOf fun j small => ?_
    rw [byteOf_foldHash bytes small, byteOf_foldHash other small, same j small]

/-! ## Its laws -/

/-- Zeros behind a sequence do not change its hash. -/
theorem foldHash_append_zeros (bytes : List UInt8) (n : Nat) :
    foldHash ⟨bytes ++ .replicate n 0⟩ = foldHash ⟨bytes⟩ :=
  foldHash_eq_iff.mpr fun j _ => xorAll_lane_append_zeros j bytes n

/-- Behind whole words a sequence counts as it does alone. -/
theorem foldHash_append (whole : bytes.length % 4 = 0) (other : List UInt8) :
    foldHash ⟨bytes ++ other⟩ = foldHash ⟨bytes⟩ ^^^ foldHash ⟨other⟩ := by
  refine eq_of_byteOf fun j small => ?_
  have behind : lane j (0 + bytes.length) other = lane j 0 other :=
    lane_congr (by rw [Nat.zero_add, whole]) other
  rw [byteOf_xor, byteOf_foldHash _ small, byteOf_foldHash _ small, byteOf_foldHash _ small,
    lane_append, behind, xorAll_append]

/-- Two sequences of one length have different bytes at one place, and the same everywhere else. -/
structure DifferOnlyAt (i : Nat) (bytes other : List UInt8) : Prop where
  length : bytes.length = other.length
  place : ∀ k, bytes[k]? = other[k]? ↔ k ≠ i

/-- They are the same in front of that place and behind it. -/
theorem DifferOnlyAt.split {i : Nat} (differ : DifferOnlyAt i bytes other) :
    ∃ front back b c, bytes = front ++ b :: back ∧ other = front ++ c :: back ∧ b ≠ c := by
  have apart : bytes[i]? ≠ other[i]? := fun same => (differ.place i).mp same rfl
  have inside : i < bytes.length := by
    refine Nat.not_le.mp fun outside => apart ?_
    rw [List.getElem?_eq_none outside, List.getElem?_eq_none (differ.length ▸ outside)]
  have inside' : i < other.length := differ.length ▸ inside
  have front : other.take i = bytes.take i := by
    refine List.ext_getElem? fun k => ?_
    rw [List.getElem?_take, List.getElem?_take]
    split
    next before => exact ((differ.place k).mpr (Nat.ne_of_lt before)).symm
    next => rfl
  have back : other.drop (i + 1) = bytes.drop (i + 1) := by
    refine List.ext_getElem? fun k => ?_
    rw [List.getElem?_drop, List.getElem?_drop]
    exact ((differ.place _).mpr (by omega)).symm
  refine ⟨bytes.take i, bytes.drop (i + 1), bytes[i], other[i], ?_, ?_, fun same => apart ?_⟩
  · rw [List.getElem_cons_drop, List.take_append_drop]
  · rw [← front, ← back, List.getElem_cons_drop, List.take_append_drop]
  · rw [List.getElem?_eq_getElem inside, List.getElem?_eq_getElem inside', same]

/-- Their hashes are different, since the lane of that place has a different exclusive or. -/
theorem DifferOnlyAt.foldHash_ne {i : Nat} (differ : DifferOnlyAt i bytes other) :
    foldHash ⟨bytes⟩ ≠ foldHash ⟨other⟩ := by
  obtain ⟨front, back, b, c, rfl, rfl, apart⟩ := differ.split
  intro same
  have lanes := foldHash_eq_iff.mp same (front.length % 4) (Nat.mod_lt _ (by decide))
  rw [lane_append, lane_append, xorAll_append, xorAll_append, lane_cons, lane_cons, Nat.zero_add,
    if_pos rfl, if_pos rfl, xorAll_append, xorAll_append, UInt8.xor_right_inj, UInt8.xor_left_inj]
    at lanes
  exact apart ((UInt8.xor_left_inj 0).mp lanes)

/-- The hash and its laws. Each of its bytes, the lowest one first, is the exclusive or of those
bytes of the buffer whose place leaves the same remainder when divided by four. So zeros may be
appended to a buffer without changing its hash, the hash of whole words and what is behind them is
the exclusive or of both hashes, and two buffers of one length that differ in a single byte have
different hashes. -/
theorem foldHash_lanes :
    (∀ (b : Buffer) (j : Nat), j < 4 → byteOf b.foldHash j = xorAll (lane j 0 b.bytes)) ∧
    (∀ (bytes : List UInt8) (n : Nat), foldHash ⟨bytes ++ .replicate n 0⟩ = foldHash ⟨bytes⟩) ∧
    (∀ bytes other : List UInt8, bytes.length % 4 = 0 →
      foldHash ⟨bytes ++ other⟩ = foldHash ⟨bytes⟩ ^^^ foldHash ⟨other⟩) ∧
    (∀ (i : Nat) (bytes other : List UInt8), DifferOnlyAt i bytes other →
      foldHash ⟨bytes⟩ ≠ foldHash ⟨other⟩) :=
  ⟨fun b _ => byteOf_foldHash b.bytes, foldHash_append_zeros, fun _ other whole =>
    foldHash_append whole other, fun _ _ _ => DifferOnlyAt.foldHash_ne⟩

/-- Six bytes, of which the last two are no whole word, and the same with another last byte. -/
theorem foldHash_lanes_uneven :
    foldHash ⟨[1, 2, 3, 4, 16, 32]⟩ = 0x04032211 ∧
    byteOf (foldHash ⟨[1, 2, 3, 4, 16, 32]⟩) 1 = 2 ^^^ 32 ∧
    foldHash ⟨[1, 2, 3, 4] ++ [16, 32]⟩ = foldHash ⟨[1, 2, 3, 4]⟩ ^^^ foldHash ⟨[16, 32]⟩ ∧
    DifferOnlyAt 5 [1, 2, 3, 4, 16, 32] [1, 2, 3, 4, 16, 33] ∧
    foldHash ⟨[1, 2, 3, 4, 16, 32]⟩ ≠ foldHash ⟨[1, 2, 3, 4, 16, 33]⟩ := by
  obtain ⟨lanes, -, whole, differ⟩ := foldHash_lanes
  have once : DifferOnlyAt 5 [1, 2, 3, 4, 16, 32] [1, 2, 3, 4, 16, 33] := by
    refine ⟨rfl, fun k => ?_⟩
    match k with
    | 0 | 1 | 2 | 3 | 4 | 5 => decide
    | k + 6 => exact iff_of_true rfl (by omega)
  exact ⟨by decide, lanes _ 1 (by decide), whole _ _ rfl, once, differ _ _ _ once⟩

end Uplink.Buffer
