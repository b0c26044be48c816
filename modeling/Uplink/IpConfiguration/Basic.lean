import Uplink.IpConfiguration.Mask

/-!
# Static configurations

A static IPv4 configuration: an address, a subnet mask, a gateway and up to two name servers. No
name servers means that name resolution is left automatic. Where there is no static configuration
at all, the address comes from DHCP.

## Main definitions

- `IpConfiguration`: the configuration, made by `IpConfiguration.make` or from CIDR notation by
  `IpConfiguration.ofCidr`.
- `IpConfiguration.withServers`, `IpConfiguration.replaceServers`: replace the name servers.
- `IpConfiguration.text`: how a configuration is shown.
-/

namespace Uplink

/-- The most name servers that can be set. -/
def maxServers : Nat := 2

/-- A static configuration of an interface. -/
structure IpConfiguration where
  address : Address
  mask : Address
  gateway : Address
  servers : List Address
  deriving DecidableEq, Repr

namespace IpConfiguration

/-- A configuration without name servers. The address must not be zero and the mask must be
contiguous; nothing is asked of the gateway. -/
def make (address mask gateway : Address) : Except CodecError IpConfiguration :=
  if address.isAny then .error (.invalidConfiguration .anyAddress)
  else
    match Mask.prefixLength? mask with
    | none => .error (.invalidConfiguration (.maskNotContiguous mask.text))
    | some _ => .ok ⟨address, mask, gateway, []⟩

/-- The parts of a text before and after its first slash. -/
def splitSlash? (cs : List Char) : Option (List Char × List Char) :=
  match cs.dropWhile (· ≠ '/') with
  | [] => none
  | _ :: rest => some (cs.takeWhile (· ≠ '/'), rest)

/-- A configuration from `a.b.c.d/n` and a gateway. -/
def ofCidr (cidr : String) (gateway : Address) : Except CodecError IpConfiguration := do
  let some (before, after) := splitSlash? cidr.toList
    | throw (.invalidConfiguration (.notCidr cidr))
  let address ← Address.parse (String.ofList before)
  let length ← match Text.readUnsigned 10 255 after with
    | .ok n => pure (UInt8.ofNat n)
    | .error e => throw (.invalidConfiguration (.invalidPrefix (String.ofList after) e))
  let mask ← Mask.ofPrefix length
  make address mask gateway

/-- The configuration with other name servers, of which there may be at most two. -/
def withServers (c : IpConfiguration) (servers : List Address) :
    Except CodecError IpConfiguration :=
  if maxServers < servers.length then
    .error (.invalidConfiguration (.tooManyServers maxServers servers.length))
  else .ok { c with servers }

/-- The configuration with other name servers, or as it was if they are refused. -/
def replaceServers (c : IpConfiguration) (servers : List Address) : IpConfiguration :=
  match c.withServers servers with
  | .ok changed => changed
  | .error _ => c

/-- The prefix length of the mask. -/
def prefixLength (c : IpConfiguration) : UInt8 := (Mask.prefixLength? c.mask).getD 0

/-- How a configuration is shown. -/
def text (c : IpConfiguration) : String :=
  let base := s!"{c.address.text}/{c.prefixLength.toNat} via {c.gateway.text}"
  if c.servers.isEmpty then base
  else base ++ " dns " ++ String.intercalate "," (c.servers.map Address.text)

end IpConfiguration

end Uplink
