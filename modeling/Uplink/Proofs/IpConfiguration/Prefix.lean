import Mathlib.Data.Set.Card
import Mathlib.Order.Interval.Finset.Nat
import Uplink.Proofs.IpConfiguration.Mask

/-!
# Masks and prefixes are inverse

A mask is four octets, one behind the other in the order of the dotted quad; what makes it a mask is
that the bits of all of them, highest first, are ones followed by zeros. The word that is counted
and shifted is put together the other way round, from the last octet up. Its bits are those of the
octets all the same, because a number written behind others leaves their bits alone. So counting and
shifting, which are compared with bits already, are inverse to one another as octets.

## Main definitions

- `Mask.highBits`: the bits of a number, highest first.
- `Quad.bits`: the bits of four bytes, first to last.

## Main results

- `Mask.bitList_highFirst`: the bits of a word are those of its bytes.
- `Mask.toNat_bits_eq`: the value of a mask, of no ones and of nothing but ones included.
- `Mask.ncard_masks`: of all words, thirty-three are masks.
- `Mask.prefix_exact`: masks and prefixes in both directions.
-/

namespace Uplink

namespace Mask

/-- The bits of a number of a given width, highest first. -/
def highBits (width value : Nat) : List Bool :=
  (List.range width).map fun i => value.testBit (width - 1 - i)

end Mask

/-- The bits of four bytes in their order, those of each byte highest first. -/
def Quad.bits (q : Quad) : List Bool := q.toList.flatMap fun byte => Mask.highBits 8 byte.toNat

namespace Mask

variable {mask : Address} {n k : Nat}

/-! ## Bits of octets -/

/-- The bits of a number that is written behind another are the bits of both. -/
theorem highBits_add {low : Nat} (high : Nat) (fits : low < 2 ^ k) :
    highBits (n + k) (low + 2 ^ k * high) = highBits n high ++ highBits k low := by
  rw [Nat.add_comm low]
  unfold highBits
  rw [List.range_add, List.map_append, List.map_map]
  congr 1
  · refine List.map_congr_left fun i inside => ?_
    have place : n + k - 1 - i = k + (n - 1 - i) := by
      have := List.mem_range.mp inside
      omega
    rw [place, Nat.testBit_two_pow_mul_add _ fits, if_neg (by omega), Nat.add_sub_cancel_left]
  · refine List.map_congr_left fun i inside => ?_
    have place : n + k - 1 - (n + i) = k - 1 - i := by omega
    have low : k - 1 - i < k := by
      have := List.mem_range.mp inside
      omega
    rw [Function.comp_apply, place, Nat.testBit_two_pow_mul_add _ fits, if_pos low]

/-- The bits of a word are those of its bytes. -/
theorem bitList_highFirst (q : Quad) : bitList q.highFirst = q.bits := by
  have b_lt : q.b.toNat < 2 ^ 8 := q.b.toNat_lt
  have c_lt : q.c.toNat < 2 ^ 8 := q.c.toNat_lt
  have d_lt : q.d.toNat < 2 ^ 8 := q.d.toNat_lt
  have value : q.highFirst.toNat =
      q.d.toNat + 2 ^ 8 * (q.c.toNat + 2 ^ 8 * (q.b.toNat + 2 ^ 8 * q.a.toNat)) := by
    rw [Quad.highFirst, Quad.toNat_lowFirst]
    show q.d.toNat + 2 ^ 8 * q.c.toNat + 2 ^ 16 * q.b.toNat + 2 ^ 24 * q.a.toNat = _
    omega
  calc bitList q.highFirst
      = highBits (8 + 8 + 8 + 8) q.highFirst.toNat := rfl
    _ = highBits 8 q.a.toNat ++ highBits 8 q.b.toNat ++ highBits 8 q.c.toNat ++
          highBits 8 q.d.toNat := by
        rw [value, highBits_add _ d_lt, highBits_add _ c_lt, highBits_add _ b_lt]
    _ = q.bits := by simp [Quad.bits, Quad.toList]

/-- A mask has a prefix exactly if that many ones lead its octets, and zeros are all the rest. -/
theorem prefixLength?_iff_bits {length : UInt8} :
    prefixLength? mask = some length ↔
      length.toNat ≤ 32 ∧ mask.octets.bits = ones length.toNat := by
  rw [prefixLength?_eq_some_iff, bitsOf, bitList_highFirst]

/-! ## The masks of prefixes -/

/-- The value of a mask is what it lacks to the next power of two beyond all words. -/
theorem toNat_bits_eq (few : n ≤ 32) : (bits n).toNat = 2 ^ 32 - 2 ^ (32 - n) := by
  have small : 2 ^ (32 - n) ≤ 2 ^ 32 := Nat.pow_le_pow_right (by decide) (Nat.sub_le 32 n)
  have positive : 0 < 2 ^ (32 - n) := Nat.two_pow_pos _
  have split : (2 ^ 32 - 1) * 2 ^ (32 - n) =
      2 ^ 32 - 2 ^ (32 - n) + 2 ^ 32 * (2 ^ (32 - n) - 1) := by
    rw [Nat.sub_mul, Nat.mul_sub]
    omega
  rw [toNat_bits few, Nat.shiftLeft_eq, split, Nat.add_mul_mod_self_left]
  exact Nat.mod_eq_of_lt (Nat.sub_lt (by decide) positive)

/-- A mask that was made is of the word that was shifted. -/
theorem bitsOf_of_ofPrefix {length : UInt8} (made : ofPrefix length = .ok mask) :
    bitsOf mask = bits length.toNat := by
  unfold ofPrefix at made
  split at made
  · cases made
    exact bitsOf_ofHighFirst _
  · cases made

/-- The octets of a mask are determined by its prefix. -/
theorem octets_eq_of_prefixLength? {other : Address} {length : UInt8}
    (counted : prefixLength? mask = some length) (counted' : prefixLength? other = some length) :
    mask.octets = other.octets := by
  obtain ⟨-, bits⟩ := prefixLength?_eq_some_iff.mp counted
  obtain ⟨-, bits'⟩ := prefixLength?_eq_some_iff.mp counted'
  exact congrArg Quad.ofLowFirst (value_eq_of_bitsOf (bitList_inj (bits.trans bits'.symm)))

/-! ## How many masks there are -/

/-- The value of the mask with a prefix of a given length. -/
def valueOf (n : Nat) : UInt32 := (Quad.ofHighFirst (bits n)).lowFirst

theorem prefixLength?_valueOf (family : Family) (few : n ≤ 32) :
    prefixLength? ⟨family, valueOf n⟩ = some (.ofNat n) :=
  prefixLength?_of_ones few ((congrArg bitList (bitsOf_ofHighFirst (bits n))).trans
    (bitList_bits few))

/-- Of all words, those of the prefixes from none to all bits are masks. -/
theorem masks_eq_image (family : Family) :
    {value : UInt32 | ∃ length, prefixLength? ⟨family, value⟩ = some length} =
      valueOf '' Set.Iic 32 := by
  ext value
  constructor
  · rintro ⟨length, counted⟩
    -- The mask that is made of the counted length has the same bits, so it is the same word.
    have few := (prefixLength?_eq_some_iff.mp counted).1
    refine ⟨length.toNat, few, ?_⟩
    have made := prefixLength?_valueOf family few
    rw [UInt8.ofNat_toNat] at made
    exact value_eq_of_bitsOf (bitList_inj ((prefixLength?_eq_some_iff.mp made).2.trans
      (prefixLength?_eq_some_iff.mp counted).2.symm))
  · rintro ⟨n, few, rfl⟩
    exact ⟨_, prefixLength?_valueOf family few⟩

/-- Different prefixes make different masks. -/
theorem valueOf_injOn : Set.InjOn valueOf (Set.Iic 32) := by
  intro n few m few' same
  have counted := prefixLength?_valueOf .internet few
  rw [same, prefixLength?_valueOf .internet few'] at counted
  have lengths := congrArg UInt8.toNat (Option.some.inj counted)
  rwa [toNat_ofNat few, toNat_ofNat few', eq_comm] at lengths

/-- Of all words, thirty-three are masks. -/
theorem ncard_masks (family : Family) :
    {value : UInt32 | ∃ length, prefixLength? ⟨family, value⟩ = some length}.ncard = 33 := by
  rw [masks_eq_image, valueOf_injOn.ncard_image, Set.ncard_eq_toFinset_card', Set.toFinset_Iic,
    Nat.card_Iic]

/-! ## Both directions -/

/-- Masks and prefixes are inverse. An address has a prefix exactly if that many ones lead the bits
of its octets and all others are zeros, and then the mask of that prefix has the same octets. Every
prefix of at most 32 bits has a mask, whose prefix it is, and of which the word is the one that
arithmetic asks for, with no bits and with all bits too; every longer one is refused. So of all
words thirty-three are masks, under every family. -/
theorem prefix_exact :
    (∀ (mask : Address) (length : UInt8), prefixLength? mask = some length ↔
      length.toNat ≤ 32 ∧ mask.octets.bits = ones length.toNat) ∧
    (∀ (mask : Address) (length : UInt8), prefixLength? mask = some length →
      ∃ made, ofPrefix length = .ok made ∧ made.octets = mask.octets) ∧
    (∀ length : UInt8, length.toNat ≤ 32 → ∃ made, ofPrefix length = .ok made ∧
      prefixLength? made = some length ∧
      (bitsOf made).toNat = 2 ^ 32 - 2 ^ (32 - length.toNat)) ∧
    (∀ length : UInt8, 32 < length.toNat →
      ofPrefix length = .error (.invalidConfiguration (.prefixTooLong length))) ∧
    (∀ family : Family,
      {value : UInt32 | ∃ length, prefixLength? ⟨family, value⟩ = some length}.ncard = 33) := by
  have made_of {length : UInt8} (few : length.toNat ≤ 32) :
      ∃ made, ofPrefix length = .ok made ∧ prefixLength? made = some length := by
    obtain ⟨made, done⟩ := exists_ofPrefix few
    rw [UInt8.ofNat_toNat] at done
    exact ⟨made, done, (prefixLength?_of_ofPrefix done).2.2⟩
  refine ⟨fun mask length => prefixLength?_iff_bits, fun mask length counted => ?_,
    fun length few => ?_, fun length many => ofPrefix_eq_error_iff.mpr ⟨many, rfl⟩, ncard_masks⟩
  · obtain ⟨made, done, again⟩ := made_of (prefixLength?_eq_some_iff.mp counted).1
    exact ⟨made, done, octets_eq_of_prefixLength? again counted⟩
  · obtain ⟨made, done, again⟩ := made_of few
    refine ⟨made, done, again, ?_⟩
    rw [bitsOf_of_ofPrefix done, toNat_bits_eq few]

/-- Both ends, a mask of which an octet is neither all ones nor all zeros, and a prefix that is too
long. -/
theorem prefix_exact_edges :
    (∃ made, ofPrefix 0 = .ok made ∧ prefixLength? made = some 0 ∧ (bitsOf made).toNat = 0) ∧
    (∃ made, ofPrefix 32 = .ok made ∧ prefixLength? made = some 32 ∧
      (bitsOf made).toNat = 2 ^ 32 - 1) ∧
    prefixLength? (.ofOctets ⟨255, 255, 240, 0⟩) = some 20 ∧
    (∃ made, ofPrefix 20 = .ok made ∧ made.octets = ⟨255, 255, 240, 0⟩) ∧
    ofPrefix 33 = .error (.invalidConfiguration (.prefixTooLong 33)) := by
  obtain ⟨counted, same, made, refused, -⟩ := prefix_exact
  have twenty : prefixLength? (.ofOctets ⟨255, 255, 240, 0⟩) = some 20 :=
    (counted _ _).mpr ⟨by decide, by decide⟩
  exact ⟨made 0 (by decide), made 32 (by decide), twenty, same _ 20 twenty, refused 33 (by decide)⟩

end Mask

end Uplink
