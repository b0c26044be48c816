import Uplink.Address.Text

/-!
# Subnet masks

A mask is contiguous if its octets, read with the first octet highest, are ones followed by zeros.
The number of ones is its prefix length.

## Main definitions

- `Mask.ofPrefix`: the mask with a given number of leading ones.
- `Mask.prefixLength?`: the number of leading ones of a contiguous mask.
-/

namespace Uplink.Mask

/-- The word of `n` ones followed by zeros. -/
def bits (n : Nat) : UInt32 :=
  if n = 0 then 0 else (0xFFFFFFFF : UInt32) <<< UInt32.ofNat (32 - n)

/-- The mask with a prefix of the given length, of at most 32 bits. -/
def ofPrefix (n : UInt8) : Except CodecError Address :=
  if n ≤ 32 then .ok (.ofOctets (.ofHighFirst (bits n.toNat)))
  else .error (.invalidConfiguration (.prefixTooLong n))

/-- The bits of an address with the first octet highest. -/
def bitsOf (mask : Address) : UInt32 := mask.octets.highFirst

/-- The bits of a word, highest first. -/
def bitList (w : UInt32) : List Bool :=
  (List.range 32).map fun i => w.toNat.testBit (31 - i)

/-- The number of leading ones of a word. -/
def leadingOnes (w : UInt32) : Nat := ((bitList w).takeWhile id).length

/-- The number of trailing zeros of a word, 32 for zero. -/
def trailingZeros (w : UInt32) : Nat := ((bitList w).reverse.takeWhile (!·)).length

/-- The prefix length of a contiguous mask, whatever its family. -/
def prefixLength? (mask : Address) : Option UInt8 :=
  let w := bitsOf mask
  if leadingOnes w + trailingZeros w = 32 then some (UInt8.ofNat (leadingOnes w)) else none

end Uplink.Mask
