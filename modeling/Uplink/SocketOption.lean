import Uplink.CodecError
import Uplink.Quad

/-!
# Socket options

The options of a socket, and the byte forms of their values: flags and numbers travel as four-byte
words, low byte first, everything else as it is.

## Main definitions

- `SocketType`, `Protocol`: kinds of sockets and their protocols.
- `SocketOption`: the options, with code, level and the shape of their value.
- `OptionValue.encode`, `OptionValue.decode`: the byte form of a value and back.
-/

namespace Uplink

/-- The protocols a socket can speak. -/
inductive Protocol where
  | ip
  | icmp
  | igmp
  | tcp
  | udp
  | raw
  deriving DecidableEq, Repr

/-- The number of a protocol. -/
def Protocol.code : Protocol → Int32
  | ip => 0
  | icmp => 1
  | igmp => 2
  | tcp => 6
  | udp => 17
  | raw => 255

/-- The types of sockets. -/
inductive SocketType where
  | stream
  | datagram
  | raw
  | reliablyDelivered
  | sequencedPackets
  deriving DecidableEq, Repr

/-- The number of a socket type. -/
def SocketType.code : SocketType → Int32
  | stream => 1
  | datagram => 2
  | raw => 3
  | reliablyDelivered => 4
  | sequencedPackets => 5

/-- The protocol a socket of the type speaks when none is given. -/
def SocketType.defaultProtocol : SocketType → Protocol
  | stream => .tcp
  | datagram => .udp
  | _ => .raw

/-- The level at which an option applies. -/
inductive OptionLevel where
  | ip
  | tcp
  | udp
  | socket
  deriving DecidableEq, Repr

/-- The number of a level. -/
def OptionLevel.code : OptionLevel → Int32
  | ip => 0
  | tcp => 6
  | udp => 17
  | socket => 0xFFFF

/-- The shape of an option's value. -/
inductive OptionShape where
  | flag
  | number
  | bytes
  deriving DecidableEq, Repr

/-- The options of a socket. -/
inductive SocketOption where
  | debug
  | acceptConnection
  | reuseAddress
  | keepAlive
  | dontRoute
  | broadcast
  | linger
  | dontLinger
  | outOfBandInline
  | sendBuffer
  | receiveBuffer
  | sendTimeout
  | receiveTimeout
  | error
  | type
  | ipTimeToLive
  | multicastInterface
  | multicastTimeToLive
  | addMembership
  | dropMembership
  | noDelay
  deriving DecidableEq, Repr

namespace SocketOption

/-- The code of an option, unique among the options of its level. -/
def code : SocketOption → Int32
  | debug => 0x0001
  | acceptConnection => 0x0002
  | reuseAddress => 0x0004
  | keepAlive => 0x0008
  | dontRoute => 0x0010
  | broadcast => 0x0020
  | linger => 0x0080
  | dontLinger => ~~~0x0080
  | outOfBandInline => 0x0100
  | sendBuffer => 0x1001
  | receiveBuffer => 0x1002
  | sendTimeout => 0x1005
  | receiveTimeout => 0x1006
  | error => 0x1007
  | type => 0x1008
  | ipTimeToLive => 4
  | multicastInterface => 9
  | multicastTimeToLive => 10
  | addMembership => 12
  | dropMembership => 13
  | noDelay => 1

/-- The level of an option. -/
def level : SocketOption → OptionLevel
  | ipTimeToLive | multicastInterface | multicastTimeToLive | addMembership | dropMembership => .ip
  | noDelay => .tcp
  | _ => .socket

/-- The shape of an option's value. -/
def shape : SocketOption → OptionShape
  | debug | acceptConnection | reuseAddress | keepAlive | dontRoute | broadcast | dontLinger
  | outOfBandInline | noDelay => .flag
  | sendBuffer | receiveBuffer | sendTimeout | receiveTimeout | error | type | ipTimeToLive
  | multicastTimeToLive => .number
  | linger | multicastInterface | addMembership | dropMembership => .bytes

end SocketOption

/-- The value of an option. -/
inductive OptionValue where
  | flag (value : Bool)
  | number (value : Int32)
  | bytes (value : List UInt8)
  deriving DecidableEq, Repr

namespace OptionValue

/-- The shape of a value. -/
def shape : OptionValue → OptionShape
  | flag _ => .flag
  | number _ => .number
  | bytes _ => .bytes

/-- The four bytes of a number, low byte first. -/
def encodeNumber (n : Int32) : List UInt8 := (Quad.ofLowFirst n.toUInt32).toList

/-- The bytes of a value. -/
def encode : OptionValue → List UInt8
  | flag value => encodeNumber (if value then 1 else 0)
  | number value => encodeNumber value
  | bytes value => value

/-- The number that the first four bytes hold. -/
def decodeNumber : List UInt8 → Except CodecError Int32
  | a :: b :: c :: d :: _ => .ok (Quad.mk a b c d).lowFirst.toInt32
  | short => .error (.bufferTooShort 4 short.length)

/-- The value that bytes hold for an option, in the shape of that option. -/
def decode (o : SocketOption) (bytes : List UInt8) : Except CodecError OptionValue :=
  match o.shape with
  | .flag => (decodeNumber bytes).map fun n => .flag (n != 0)
  | .number => (decodeNumber bytes).map .number
  | .bytes => .ok (.bytes bytes)

end OptionValue

end Uplink
