import Uplink.Buffer.Basic
import Uplink.Endpoint.Basic

/-!
# Endpoints on the wire

The sixteen bytes of an IPv4 socket address: the family's code, low byte first; the port, high byte
first; the four octets; eight reserved zeros. Reading refuses a buffer that is too short or carries
another family's code, and ignores everything behind the octets.

## Main definitions

- `Endpoint.toBuffer`: the buffer of an IPv4 endpoint.
- `Endpoint.ofBytes`: the endpoint that bytes hold.
-/

namespace Uplink.Endpoint

/-- Where the port starts. -/
def portOffset : Nat := 2

/-- Where the octets start. -/
def addressOffset : Nat := 4

/-- The buffer of an endpoint; only IPv4 endpoints have one. -/
def toBuffer (e : Endpoint) : Except CodecError Buffer :=
  if e.family = .internet then
    let q := e.address.octets
    .ok <| (Buffer.ofFamily e.family)
      |>.set portOffset (e.port >>> 8).toUInt8
      |>.set (portOffset + 1) e.port.toUInt8
      |>.set addressOffset q.a
      |>.set (addressOffset + 1) q.b
      |>.set (addressOffset + 2) q.c
      |>.set (addressOffset + 3) q.d
  else .error (.unsupportedFamily e.family.code)

/-- The endpoint that bytes from a socket call hold. -/
def ofBytes (bytes : List UInt8) : Except CodecError Endpoint :=
  if bytes.length < Family.ipv4BufferSize then
    .error (.bufferTooShort Family.ipv4BufferSize bytes.length)
  else
    match bytes with
    | tagLow :: tagHigh :: portHigh :: portLow :: a :: b :: c :: d :: _ =>
      let code := Buffer.codeOf tagLow tagHigh
      if code = Family.internet.code then
        .ok ⟨.ofOctets ⟨a, b, c, d⟩, Buffer.codeOf portLow portHigh⟩
      else .error (.unsupportedFamily code)
    | _ => .error (.bufferTooShort Family.ipv4BufferSize bytes.length)

/-- The endpoint that a buffer holds. -/
def ofBuffer (b : Buffer) : Except CodecError Endpoint := ofBytes b.bytes

end Uplink.Endpoint
