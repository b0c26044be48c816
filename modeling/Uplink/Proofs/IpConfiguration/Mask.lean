import Mathlib.Data.List.TakeWhile
import Mathlib.Data.Nat.Bitwise
import Uplink.IpConfiguration.Mask
import Uplink.Proofs.Words

/-!
# Masks and their prefixes

A mask is accepted by counting: its leading ones and its trailing zeros have to make up all its
bits. It is made by shifting a word of ones. Both are compared with what a mask is meant to be, a
list of 32 bits of which the first are ones and all others zeros, and so with each other.

## Main definitions

- `Mask.ones`: the bits of a mask with a prefix of a given length.
- `Mask.IsContiguous`: an address has such bits.

## Main results

- `Mask.prefixLength?_eq_some_iff`, `Mask.prefixLength?_eq_none_iff`: counting finds the prefix of
  every contiguous mask, and only of those.
- `Mask.bitList_bits`: shifting makes the bits of a mask.
- `Mask.prefixLength?_of_ofPrefix`: a mask that was made has the prefix that it was made with.
-/

namespace Uplink.Mask

/-- So many ones, and zeros behind them, 32 bits in all. -/
def ones (n : Nat) : List Bool := .replicate n true ++ .replicate (32 - n) false

/-- The bits of an address, in the order of the dotted quad, are ones followed by zeros. -/
def IsContiguous (mask : Address) : Prop := ∃ n ≤ 32, bitList (bitsOf mask) = ones n

variable {mask : Address} {n : Nat}

@[simp] theorem length_bitList (w : UInt32) : (bitList w).length = 32 := by simp [bitList]

/-- The length of a prefix fits in a byte. -/
theorem toNat_ofNat (few : n ≤ 32) : (UInt8.ofNat n).toNat = n :=
  UInt8.toNat_ofNat_of_lt' (Nat.lt_of_le_of_lt few (by decide))

/-! ## Bits -/

/-- A word is determined by its bits. -/
theorem bitList_inj {v w : UInt32} (same : bitList v = bitList w) : v = w := by
  apply UInt32.toNat_inj.mp
  refine Nat.eq_of_testBit_eq fun i => ?_
  rcases Nat.lt_or_ge i 32 with inside | outside
  · have at_i := congrArg (·[31 - i]?) same
    have position : 31 - (31 - i) = i := by omega
    simpa [bitList, show 31 - i < 32 by omega, position] using at_i
  · have beyond (u : UInt32) : u.toNat < 2 ^ i :=
      Nat.lt_of_lt_of_le u.toNat_lt (Nat.pow_le_pow_right (by decide) outside)
    rw [Nat.testBit_lt_two_pow (beyond v), Nat.testBit_lt_two_pow (beyond w)]

/-- The value of an address is determined by its bits in the order of the dotted quad. -/
theorem value_eq_of_bitsOf {other : Address} (same : bitsOf mask = bitsOf other) :
    mask.value = other.value := by
  have octets := congrArg Quad.ofLowFirst same
  simp only [bitsOf, Quad.highFirst, Quad.ofLowFirst_lowFirst] at octets
  have values := congrArg (Quad.lowFirst ∘ Quad.reverse) octets
  simpa [Address.octets, Quad.lowFirst_ofLowFirst] using values

/-! ## Counting -/

/-- What leads and what trails makes up a whole list only if nothing lies between them. -/
theorem eq_replicate_of_count {l : List Bool}
    (whole : (l.takeWhile id).length + (l.reverse.takeWhile (!·)).length = l.length) :
    l = .replicate (l.takeWhile id).length true ++
      .replicate (l.reverse.takeWhile (!·)).length false := by
  have split : l.takeWhile id ++ l.dropWhile id = l := List.takeWhile_append_dropWhile
  have lengths := congrArg List.length split
  rw [List.length_append] at lengths
  -- The zeros at the end and the rest behind the ones are ends of the same list, equally long.
  have zeros : (l.reverse.takeWhile (!·)).reverse <:+ l :=
    List.reverse_prefix.mp (by simpa using List.takeWhile_prefix _)
  have rest : l.dropWhile id <:+ l := List.dropWhile_suffix _
  have same : (l.reverse.takeWhile (!·)).reverse = l.dropWhile id := by
    refine (List.suffix_of_suffix_length_le zeros rest ?_).eq_of_length ?_ <;>
      (rw [List.length_reverse]; omega)
  have first : l.takeWhile id = .replicate (l.takeWhile id).length true :=
    List.eq_replicate_iff.mpr ⟨rfl, fun b mem => List.mem_takeWhile_imp mem⟩
  have last : l.reverse.takeWhile (!·) = .replicate (l.reverse.takeWhile (!·)).length false :=
    List.eq_replicate_iff.mpr ⟨rfl, fun b mem => by simpa using List.mem_takeWhile_imp mem⟩
  calc l = l.takeWhile id ++ l.dropWhile id := split.symm
    _ = l.takeWhile id ++ (l.reverse.takeWhile (!·)).reverse := by rw [same]
    _ = _ := by rw [last, List.reverse_replicate, ← first, List.length_replicate]

/-- Ones are counted up to the first zero. -/
theorem takeWhile_ones (n : Nat) : (ones n).takeWhile id = .replicate n true := by
  rw [ones, List.takeWhile_append_of_pos (by simp)]
  cases 32 - n <;> simp [List.replicate_succ]

/-- Zeros are counted down to the last one. -/
theorem takeWhile_reverse_ones (n : Nat) :
    (ones n).reverse.takeWhile (!·) = .replicate (32 - n) false := by
  rw [ones, List.reverse_append, List.reverse_replicate, List.reverse_replicate,
    List.takeWhile_append_of_pos (by simp)]
  cases n <;> simp [List.replicate_succ]

/-- Counting finds the prefix of a mask exactly if the mask has one. -/
theorem prefixLength?_eq_some_iff {length : UInt8} :
    prefixLength? mask = some length ↔
      length.toNat ≤ 32 ∧ bitList (bitsOf mask) = ones length.toNat := by
  have counted : prefixLength? mask = some length ↔
      leadingOnes (bitsOf mask) + trailingZeros (bitsOf mask) = 32 ∧
        UInt8.ofNat (leadingOnes (bitsOf mask)) = length :=
    Option.ite_none_right_eq_some.trans (and_congr_right' Option.some_inj)
  rw [counted]
  constructor
  · rintro ⟨whole, rfl⟩
    have few : leadingOnes (bitsOf mask) ≤ 32 := by omega
    have rest : trailingZeros (bitsOf mask) = 32 - leadingOnes (bitsOf mask) := by omega
    rw [toNat_ofNat few]
    refine ⟨few, (eq_replicate_of_count (whole.trans (length_bitList _).symm)).trans ?_⟩
    exact congrArg (List.replicate _ true ++ List.replicate · false) rest
  · rintro ⟨few, bits⟩
    rw [leadingOnes, trailingZeros, bits, takeWhile_ones, takeWhile_reverse_ones,
      List.length_replicate, List.length_replicate]
    exact ⟨by omega, UInt8.ofNat_toNat⟩

/-- The prefix that a mask has is found. -/
theorem prefixLength?_of_ones (few : n ≤ 32) (bits : bitList (bitsOf mask) = ones n) :
    prefixLength? mask = some (.ofNat n) := by
  rw [prefixLength?_eq_some_iff, toNat_ofNat few]
  exact ⟨few, bits⟩

/-- The prefix of an IPv4 mask determines the mask. -/
theorem eq_of_prefixLength? {other : Address} {length : UInt8} (ours : mask.family = .internet)
    (ours' : other.family = .internet) (counted : prefixLength? mask = some length)
    (counted' : prefixLength? other = some length) : mask = other := by
  obtain ⟨-, bits⟩ := prefixLength?_eq_some_iff.mp counted
  obtain ⟨-, bits'⟩ := prefixLength?_eq_some_iff.mp counted'
  have value : mask.value = other.value := value_eq_of_bitsOf (bitList_inj (bits.trans bits'.symm))
  rw [← Address.ofOctets_octets ours, ← Address.ofOctets_octets ours', Address.octets, value,
    Address.octets]

/-- Only a zero mask has no ones. -/
theorem value_eq_zero_iff (few : n ≤ 32) (bits : bitList (bitsOf mask) = ones n) :
    mask.value = 0 ↔ n = 0 := by
  have none : bitList (bitsOf .any) = ones 0 := by decide
  constructor
  · intro zero
    have same : bitsOf mask = bitsOf .any := congrArg (Quad.highFirst ∘ Quad.ofLowFirst) zero
    rw [same, none] at bits
    simpa [ones, List.count_replicate] using congrArg (List.count true) bits.symm
  · rintro rfl
    exact value_eq_of_bitsOf (bitList_inj (bits.trans none.symm))

/-- Nothing else is taken for a mask. -/
theorem prefixLength?_eq_none_iff : prefixLength? mask = none ↔ ¬ IsContiguous mask := by
  rw [← Option.not_isSome_iff_eq_none, Option.isSome_iff_exists, not_iff_not]
  constructor
  · rintro ⟨length, found⟩
    exact ⟨_, prefixLength?_eq_some_iff.mp found⟩
  · rintro ⟨n, few, bits⟩
    exact ⟨_, prefixLength?_of_ones few bits⟩

/-! ## Shifting -/

/-- The value of a word of ones that was shifted to the left. -/
theorem toNat_bits (few : n ≤ 32) : (bits n).toNat = (2 ^ 32 - 1) <<< (32 - n) % 2 ^ 32 := by
  rw [bits]
  split
  · rename_i none
    subst none
    decide
  · rename_i some
    have small : 32 - n < 32 := by omega
    rw [UInt32.toNat_shiftLeft, UInt32.toNat_ofNat_of_lt' (Nat.lt_of_lt_of_le small (by decide)),
      Nat.mod_eq_of_lt small]
    rfl

/-- Shifting makes ones followed by zeros. -/
theorem bitList_bits (few : n ≤ 32) : bitList (bits n) = ones n := by
  refine List.ext_getElem (by simp [ones, few]) fun i inside _ => ?_
  rw [length_bitList] at inside
  simp only [bitList, List.getElem_map, List.getElem_range, ones, List.getElem_append,
    List.length_replicate, List.getElem_replicate, toNat_bits few, Nat.testBit_mod_two_pow,
    Nat.testBit_shiftLeft, Nat.testBit_two_pow_sub_one]
  split <;> simp <;> omega

/-- The bits of the mask that a word stands for are those of the word. -/
theorem bitsOf_ofHighFirst (w : UInt32) : bitsOf (.ofOctets (.ofHighFirst w)) = w := by
  rw [bitsOf, Address.octets_ofOctets, Quad.ofHighFirst, Quad.highFirst, Quad.reverse_reverse,
    Quad.lowFirst_ofLowFirst]

/-- There is a mask for every prefix, and for nothing longer. -/
theorem ofPrefix_eq_error_iff {length : UInt8} {e : CodecError} :
    ofPrefix length = .error e ↔
      32 < length.toNat ∧ e = .invalidConfiguration (.prefixTooLong length) := by
  rw [ofPrefix]
  split
  · rename_i few
    have few : length.toNat ≤ 32 := UInt8.le_iff_toNat_le.mp few
    simp [few]
  · rename_i many
    have many : 32 < length.toNat := Nat.not_le.mp fun few => many (UInt8.le_iff_toNat_le.mpr few)
    simp [many, eq_comm]

theorem exists_ofPrefix (few : n ≤ 32) : ∃ mask, ofPrefix (.ofNat n) = .ok mask := by
  cases made : ofPrefix (.ofNat n) with
  | ok mask => exact ⟨mask, rfl⟩
  | error e =>
    have many := (ofPrefix_eq_error_iff.mp made).1
    rw [toNat_ofNat few] at many
    omega

/-- A mask that was made has the prefix that it was made with. -/
theorem prefixLength?_of_ofPrefix {length : UInt8} (made : ofPrefix length = .ok mask) :
    length.toNat ≤ 32 ∧ mask.isIPv4 = true ∧ prefixLength? mask = some length := by
  unfold ofPrefix at made
  split at made
  · rename_i few
    have few : length.toNat ≤ 32 := UInt8.le_iff_toNat_le.mp few
    cases made
    refine ⟨few, rfl, prefixLength?_eq_some_iff.mpr ⟨few, ?_⟩⟩
    rw [bitsOf_ofHighFirst, bitList_bits few]
  · cases made

end Uplink.Mask
