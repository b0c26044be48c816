import Uplink.Address.Text

/-!
# Endpoints

An address and a port. An endpoint is written as a dotted quad, a colon and the port in decimal.

## Main definitions

- `Endpoint`: an address with a port; port zero stands for any port.
- `Endpoint.text`, `Endpoint.parse`: its text and the reader, which admits leading zeros in a port.
-/

namespace Uplink

/-- A communication peer: where it is and on which port. -/
structure Endpoint where
  address : Address
  port : UInt16
  deriving DecidableEq, Repr

namespace Endpoint

/-- The lowest port. -/
def minPort : UInt16 := 0

/-- The highest port. -/
def maxPort : UInt16 := 65535

/-- The family of the address. -/
def family (e : Endpoint) : Family := e.address.family

/-- How an endpoint is shown. -/
def text (e : Endpoint) : String := s!"{e.address.text}:{e.port.toNat}"

/-- The text of an IPv4 endpoint; a foreign one has no such form. -/
def socketText? (e : Endpoint) : Option String :=
  e.address.ipv4?.map fun q => s!"{q.text}:{e.port.toNat}"

/-- Reads the whole of a text as a port: digits only, at least one, of value at most 65535. -/
def parsePort? (cs : List Char) : Option UInt16 :=
  let value := Text.decimalValue cs
  if cs ≠ [] ∧ cs.all Text.isDigit ∧ value ≤ 65535 then some (UInt16.ofNat value) else none

/-- Reads a whole text as a dotted quad, a colon and a port. -/
def parse? (cs : List Char) : Option Endpoint := do
  let (q, cs) ← Quad.read? cs
  let port ← parsePort? (← Quad.readChar? ':' cs)
  return ⟨.ofOctets q, port⟩

/-- Reads an endpoint from a text; blanks around it do not count, but an error shows them. -/
def parse (s : String) : Except CodecError Endpoint :=
  match parse? (Text.trim s.toList) with
  | some e => .ok e
  | none => .error (.invalidAddress s .endpoint)

end Endpoint

end Uplink
