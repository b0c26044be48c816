import Uplink.Address.Text

/-!
# Network interfaces

An interface as the platform reports it: its name, its kind, its IPv4 address and whether the
address comes from DHCP.

## Main definitions

- `InterfaceKind`: the kinds of interface, with their keywords.
- `Interface`: one interface; the zero address stands for no address.
- `AddressChange`: what listeners learn when an interface's address is written.
-/

namespace Uplink

/-- The kinds of interface. -/
inductive InterfaceKind where
  | ethernet
  | wifi
  | accessPoint
  | loopback
  | unknown
  deriving DecidableEq, Repr

namespace InterfaceKind

/-- How a kind is shown. -/
def text : InterfaceKind → String
  | ethernet => "ethernet"
  | wifi => "wifi"
  | accessPoint => "wireless-ap"
  | loopback => "loopback"
  | unknown => "unknown"

/-- The keywords of a kind, in lower case. The unknown kind has none. -/
def keywords : InterfaceKind → List String
  | ethernet => ["ethernet", "eth", "wired"]
  | wifi => ["wifi", "wireless", "wlan"]
  | accessPoint => ["ap", "wireless-ap"]
  | loopback => ["loopback", "lo"]
  | unknown => []

/-- A text that is no keyword of a kind. -/
structure UnknownKeyword where
  text : String
  deriving DecidableEq, Repr

/-- The wording of an unknown keyword. -/
def UnknownKeyword.message (e : UnknownKeyword) : String :=
  s!"unknown interface type: {e.text}"

/-- The kind that a keyword stands for; the case of ASCII letters does not count. -/
def parse (s : String) : Except UnknownKeyword InterfaceKind :=
  let lower := String.ofList (s.toList.map Char.toLower)
  match [ethernet, wifi, accessPoint, loopback].find? fun k => k.keywords.contains lower with
  | some k => .ok k
  | none => .error ⟨s⟩

end InterfaceKind

/-- One interface. -/
structure Interface where
  name : String
  kind : InterfaceKind
  /-- The zero address while none is assigned. -/
  ipv4 : Address := .any
  dhcp : Bool := false
  deriving DecidableEq, Repr

/-- What listeners learn about an interface whose address was written. -/
structure AddressChange where
  name : String
  kind : InterfaceKind
  ipv4 : Address
  deriving DecidableEq, Repr

namespace Interface

/-- Whether an address is assigned. -/
def hasAddress (i : Interface) : Bool := !i.ipv4.isAny

/-- The news that the interface now has the address it has. -/
def change (i : Interface) : AddressChange := ⟨i.name, i.kind, i.ipv4⟩

end Interface

end Uplink
