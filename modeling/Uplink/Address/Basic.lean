import Uplink.Address.Family
import Uplink.Quad

/-!
# Addresses

An address is a 32-bit value with the family it was reported under. The value is packed with the
first octet of the dotted quad in the low byte, so that `127.0.0.1` is `0x0100007F`.

## Main definitions

- `Address`: a value and its family.
- `Address.octets`, `Address.ofOctets`: the four octets in the order of the dotted quad.
- `Address.isAny`: the value is zero.
-/

namespace Uplink

/-- A packed address value and the family it belongs to. -/
structure Address where
  family : Family
  value : UInt32
  deriving DecidableEq, Repr

namespace Address

/-- The IPv4 address with a packed value. -/
def ofValue (value : UInt32) : Address := ⟨.internet, value⟩

/-- The IPv4 address with the given octets. -/
def ofOctets (q : Quad) : Address := ofValue q.lowFirst

/-- `0.0.0.0`: no address, or every local interface when binding. -/
def any : Address := ofValue 0

/-- `127.0.0.1`. -/
def loopback : Address := ofValue 0x0100007F

/-- `255.255.255.255`. -/
def broadcast : Address := ofValue 0xFFFFFFFF

/-- The octets in the order of the dotted quad. -/
def octets (a : Address) : Quad := Quad.ofLowFirst a.value

/-- Whether the value is zero, whatever the family. -/
def isAny (a : Address) : Bool := a.value == 0

/-- Whether the address is an IPv4 address. -/
def isIPv4 (a : Address) : Bool := a.family == .internet

/-- The octets of an IPv4 address; a foreign address has none. -/
def ipv4? (a : Address) : Option Quad :=
  if a.isIPv4 then some a.octets else none

end Address

end Uplink
