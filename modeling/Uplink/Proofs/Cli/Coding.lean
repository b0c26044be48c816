import Uplink.Cli.Session
import Uplink.Proofs.Cli.Layout
import Uplink.Proofs.Endpoint.Wire
import Uplink.Proofs.Text.Hex

/-!
# Encoding and decoding on the command line

One command prints the bytes of an endpoint in hexadecimal, the other one takes such a text and
prints the endpoint. What the first prints may be handed to the second in any spelling: separators
and the cases of digits make no difference to the bytes that are read, and the bytes are those of
the endpoint.

## Main results

- `Session.encode_of_internet`: what is printed of an endpoint.
- `Session.decode_of_endpointOf`: what is printed of its bytes.
- `Session.decode_of_encode`: bytes and endpoints come back from every spelling of what was printed.
-/

namespace Uplink.Cli.Session

open Text (Hex.Respells Hex.toBytes Hex.ofBytes)

variable {e : Endpoint} {text : String}

/-- The line that is logged about an endpoint that was encoded. -/
def notice (e : Endpoint) (b : Buffer) : Entry :=
  ⟨Screen.codecTarget, ⟨.trace, s!"serialized {e.text} into {b.size} bytes"⟩⟩

/-- What is printed of an IPv4 endpoint. -/
theorem encode_of_internet (internet : e.family = .internet) :
    ∃ b : Buffer, e.toBuffer = .ok b ∧ Endpoint.ofBuffer b = .ok e ∧
      encode e = { entries := notice e b :: printed [
        "> Endpoint.: " ++ e.text,
        "> Bytes....: " ++ Hex.ofBytes b.bytes,
        "> Hash.....: " ++ Text.hexWord b.foldHash] } := by
  have written := Endpoint.toBuffer_of_internet internet
  have width : Layout.keyWidth ["Endpoint", "Bytes", "Hash"] = 8 := by decide
  refine ⟨_, written, Endpoint.ofBytes_front internet (Nat.le_refl 8), ?_⟩
  rw [encode, written]
  simp only [Layout.table, List.map_cons, List.map_nil, width]
  rw [Layout.aligned_eq _ (by decide : _ = "> Endpoint.: "),
    Layout.aligned_eq _ (by decide : _ = "> Bytes....: "),
    Layout.aligned_eq _ (by decide : _ = "> Hash.....: ")]
  rfl

/-- What is printed of the bytes of an endpoint. -/
theorem decode_of_endpointOf (read : endpointOf text = .ok e) :
    decode text = { entries := printed [
      "> Family..: " ++ e.family.name,
      "> Address.: " ++ e.address.text,
      "> Port....: " ++ toString e.port.toNat] } := by
  have width : Layout.keyWidth ["Family", "Address", "Port"] = 7 := by decide
  rw [decode, read]
  simp only [Layout.table, List.map_cons, List.map_nil, width]
  rw [Layout.aligned_eq _ (by decide : _ = "> Family..: "),
    Layout.aligned_eq _ (by decide : _ = "> Address.: "),
    Layout.aligned_eq _ (by decide : _ = "> Port....: ")]

/-- Every spelling of the bytes of an endpoint is read as that endpoint. -/
theorem endpointOf_of_respells {b : Buffer} (holds : Endpoint.ofBuffer b = .ok e)
    (respells : Hex.Respells text.toList (Hex.ofBytes b.bytes).toList) :
    endpointOf text = .ok e := by
  have bytes := Text.Hex.toBytes_of_respells respells
  rw [endpointOf, bytes]
  show (Endpoint.ofBuffer b).mapError _ = _
  rw [holds]
  rfl

/-- Bytes are read back from every spelling of their text, with separators anywhere and the digits
in either case. So the bytes that are printed of an IPv4 endpoint, in any spelling, are decoded to
its family, its address and its port. -/
theorem decode_of_encode :
    (∀ (bytes : List UInt8) (text : String),
      Hex.Respells text.toList (Hex.ofBytes bytes).toList → Hex.toBytes text = .ok bytes) ∧
    ∀ e : Endpoint, e.family = .internet →
      ∃ (hidden : Entry) (b : Buffer), hidden.target ≠ Screen.printTarget ∧ e.toBuffer = .ok b ∧
        encode e = { entries := hidden :: printed [
          "> Endpoint.: " ++ e.text,
          "> Bytes....: " ++ Hex.ofBytes b.bytes,
          "> Hash.....: " ++ Text.hexWord b.foldHash] } ∧
        ∀ text : String, Hex.Respells text.toList (Hex.ofBytes b.bytes).toList →
          endpointOf text = .ok e ∧
            decode text = { entries := printed [
              "> Family..: InterNetwork",
              "> Address.: " ++ e.address.text,
              "> Port....: " ++ toString e.port.toNat] } := by
  refine ⟨fun bytes text => Text.Hex.toBytes_of_respells, fun e internet => ?_⟩
  obtain ⟨b, written, holds, shown⟩ := encode_of_internet internet
  have hidden : (notice e b).target ≠ Screen.printTarget := by
    show Screen.codecTarget ≠ Screen.printTarget
    decide
  refine ⟨notice e b, b, hidden, written, shown, fun text respells => ?_⟩
  have read := endpointOf_of_respells holds respells
  refine ⟨read, ?_⟩
  rw [decode_of_endpointOf read, internet]
  rfl

/-- The bytes of an endpoint in capitals, in groups divided by colons and blanks, one of them in the
middle of a pair. -/
theorem decode_of_encode_grouped :
    Hex.toBytes "A b:\tcD" = .ok [0xab, 0xcd] ∧
    ∃ hidden : Entry,
      encode ⟨.ofOctets ⟨192, 168, 1, 1⟩, 6501⟩ = { entries := hidden :: printed [
        "> Endpoint.: 192.168.1.1:6501",
        "> Bytes....: 02001965c0a801010000000000000000",
        "> Hash.....: 0x6418a8c2"] } ∧
      decode "02:00:19:65 C0 A8 01 0 1:0000000000000000 " = { entries := printed [
        "> Family..: InterNetwork", "> Address.: 192.168.1.1", "> Port....: 6501"] } := by
  obtain ⟨bytes, endpoints⟩ := decode_of_encode
  refine ⟨bytes [0xab, 0xcd] _ (.of_filter (by decide)), ?_⟩
  obtain ⟨hidden, b, -, written, shown, decoded⟩ :=
    endpoints ⟨.ofOctets ⟨192, 168, 1, 1⟩, 6501⟩ rfl
  obtain rfl : ⟨[2, 0, 25, 101, 192, 168, 1, 1, 0, 0, 0, 0, 0, 0, 0, 0]⟩ = b :=
    Except.ok.inj written
  exact ⟨hidden, shown, (decoded _ (.of_filter (by decide))).2⟩

end Uplink.Cli.Session
