import Uplink.Proofs.Buffer.Hash
import Uplink.Proofs.Endpoint.Wire

/-!
# Which endpoints have one hash

The bytes of an endpoint fill two words and leave the others zero. The tag lies over the first two
octets of the address, the port with its high byte first over the last two. So the hash shows the
first two octets, and of the others only what they make with the port: endpoints collide exactly if
a change of the port makes up for a change of these octets.

## Main definitions

- `Endpoint.portHigh`, `Endpoint.portLow`: the two bytes of a port.

## Main results

- `Endpoint.byteOf_foldHash_front`: the bytes of the hash of an endpoint.
- `Endpoint.collides_iff`: which endpoints collide.
-/

namespace Uplink.Endpoint

open Buffer (byteOf foldHash)

variable {e e' : Endpoint}

/-- The high byte of the port. -/
def portHigh (e : Endpoint) : UInt8 := (e.port >>> 8).toUInt8

/-- The low byte of the port. -/
def portLow (e : Endpoint) : UInt8 := e.port.toUInt8

/-- A port is determined by its bytes. -/
theorem port_eq_of_bytes (high : e.portHigh = e'.portHigh) (low : e.portLow = e'.portLow) :
    e.port = e'.port := by
  rw [← Buffer.codeOf_bytes e.port, ← Buffer.codeOf_bytes e'.port]
  exact congrArg₂ Buffer.codeOf low high

/-- An IPv4 address is determined by its octets. -/
theorem address_eq_of_octets (internet : e.family = .internet) (internet' : e'.family = .internet)
    (same : e.address.octets = e'.address.octets) : e.address = e'.address := by
  rw [← Address.ofOctets_octets internet, same, Address.ofOctets_octets internet']

/-- The tag lies over the first two octets and the port over the last two. -/
theorem byteOf_foldHash_front (internet : e.family = .internet) :
    byteOf (foldHash ⟨e.front ++ .replicate 8 0⟩) 0 = 2 ^^^ e.address.octets.a ∧
      byteOf (foldHash ⟨e.front ++ .replicate 8 0⟩) 1 = e.address.octets.b ∧
      byteOf (foldHash ⟨e.front ++ .replicate 8 0⟩) 2 = e.portHigh ^^^ e.address.octets.c ∧
      byteOf (foldHash ⟨e.front ++ .replicate 8 0⟩) 3 = e.portLow ^^^ e.address.octets.d := by
  have words : foldHash ⟨e.front⟩ = (Quad.mk 2 0 e.portHigh e.portLow).lowFirst ^^^
      e.address.octets.lowFirst := by
    rw [front_of_internet internet]
    exact (Buffer.foldHash_cons _ _ _ _ _).trans
      (congrArg _ (Buffer.foldHash_word _ _ _ _))
  obtain ⟨t, u, high, low⟩ := Buffer.byteOf_lowFirst ⟨2, 0, e.portHigh, e.portLow⟩
  obtain ⟨a, b, c, d⟩ := Buffer.byteOf_lowFirst e.address.octets
  rw [Buffer.foldHash_append_zeros, words]
  simp only [Buffer.byteOf_xor, t, u, high, low, a, b, c, d, UInt8.zero_xor, and_self]

/-- Two differences make up for each other exactly if they are the same. -/
theorem xor_eq_xor_iff {p q x y : UInt8} : p ^^^ x = q ^^^ y ↔ x ^^^ y = p ^^^ q := by
  have sums : p ^^^ x ^^^ (q ^^^ y) = x ^^^ y ^^^ (p ^^^ q) := by ac_rfl
  rw [← UInt8.xor_eq_zero_iff, sums, UInt8.xor_eq_zero_iff]

/-- Two endpoints have one hash exactly if they share the first two octets and their ports make up
for what is different in the others. -/
theorem foldHash_front_eq_iff (internet : e.family = .internet)
    (internet' : e'.family = .internet) :
    foldHash ⟨e.front ++ .replicate 8 0⟩ = foldHash ⟨e'.front ++ .replicate 8 0⟩ ↔
      e.address.octets.a = e'.address.octets.a ∧ e.address.octets.b = e'.address.octets.b ∧
        e.address.octets.c ^^^ e'.address.octets.c = e.portHigh ^^^ e'.portHigh ∧
        e.address.octets.d ^^^ e'.address.octets.d = e.portLow ^^^ e'.portLow := by
  obtain ⟨a, b, c, d⟩ := byteOf_foldHash_front internet
  obtain ⟨a', b', c', d'⟩ := byteOf_foldHash_front internet'
  rw [Buffer.eq_iff_byteOf, a, b, c, d, a', b', c', d']
  exact and_congr (UInt8.xor_right_inj 2) (and_congr_right fun _ =>
    and_congr xor_eq_xor_iff xor_eq_xor_iff)

/-- Which endpoints collide. The buffers of two IPv4 endpoints have one hash exactly if the first
two octets of their addresses agree, their third octets differ by the same bits as the high bytes of
their ports, and their fourth octets by the same bits as the low bytes. So endpoints that differ
only in their ports, or only in their addresses, never collide. -/
theorem collides_iff (e e' : Endpoint) (internet : e.family = .internet)
    (internet' : e'.family = .internet) :
    ∃ b b' : Buffer, e.toBuffer = .ok b ∧ e'.toBuffer = .ok b' ∧
      (b.foldHash = b'.foldHash ↔
        e.address.octets.a = e'.address.octets.a ∧ e.address.octets.b = e'.address.octets.b ∧
          e.address.octets.c ^^^ e'.address.octets.c = e.portHigh ^^^ e'.portHigh ∧
          e.address.octets.d ^^^ e'.address.octets.d = e.portLow ^^^ e'.portLow) ∧
      (e.address = e'.address → e.port ≠ e'.port → b.foldHash ≠ b'.foldHash) ∧
      (e.port = e'.port → e.address ≠ e'.address → b.foldHash ≠ b'.foldHash) := by
  have collide := foldHash_front_eq_iff internet internet'
  refine ⟨_, _, toBuffer_of_internet internet, toBuffer_of_internet internet', collide,
    fun address ports same => ports ?_, fun ports addresses same => addresses ?_⟩
  · obtain ⟨-, -, high, low⟩ := collide.mp same
    rw [address, UInt8.xor_self, eq_comm, UInt8.xor_eq_zero_iff] at high low
    exact port_eq_of_bytes high low
  · obtain ⟨first, second, third, fourth⟩ := collide.mp same
    rw [portHigh, portHigh, ports, UInt8.xor_self, UInt8.xor_eq_zero_iff] at third
    rw [portLow, portLow, ports, UInt8.xor_self, UInt8.xor_eq_zero_iff] at fourth
    refine address_eq_of_octets internet internet' ?_
    rw [Quad.mk.injEq]
    exact ⟨first, second, third, fourth⟩

/-- Two endpoints that collide, since the last octet changes by the bits by which the port does, and
one more with the address of the first that does not. -/
theorem collides_iff_neighbours :
    (∃ b b' : Buffer, toBuffer ⟨.ofOctets ⟨10, 0, 0, 1⟩, 8080⟩ = .ok b ∧
      toBuffer ⟨.ofOctets ⟨10, 0, 0, 2⟩, 8083⟩ = .ok b' ∧ b.foldHash = b'.foldHash) ∧
    ∃ b b' : Buffer, toBuffer ⟨.ofOctets ⟨10, 0, 0, 1⟩, 8080⟩ = .ok b ∧
      toBuffer ⟨.ofOctets ⟨10, 0, 0, 1⟩, 8083⟩ = .ok b' ∧ b.foldHash ≠ b'.foldHash := by
  obtain ⟨b, b', written, written', collide, -⟩ :=
    collides_iff ⟨.ofOctets ⟨10, 0, 0, 1⟩, 8080⟩ ⟨.ofOctets ⟨10, 0, 0, 2⟩, 8083⟩ rfl rfl
  obtain ⟨d, d', writing, writing', -, ports, -⟩ :=
    collides_iff ⟨.ofOctets ⟨10, 0, 0, 1⟩, 8080⟩ ⟨.ofOctets ⟨10, 0, 0, 1⟩, 8083⟩ rfl rfl
  exact ⟨⟨b, b', written, written', collide.mpr (by decide)⟩,
    ⟨d, d', writing, writing', ports rfl (by decide)⟩⟩

end Uplink.Endpoint
