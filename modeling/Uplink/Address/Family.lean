/-!
# Address families

The families that a socket address can be tagged with, each with its Berkeley code and the size of
its socket address buffer.

## Main definitions

- `Family`: the known families, `Family.internet` being IPv4.
- `Family.code`, `Family.ofCode?`: the two-byte tag and back.
- `Family.bufferSize`: how many bytes a socket address of the family takes.
-/

namespace Uplink

/-- The known address families. Only `internet` addresses can be encoded. -/
inductive Family where
  | unspecified
  | unix
  | internet
  | impLink
  | pup
  | chaos
  | ipx
  | iso
  | ecma
  | dataKit
  | ccitt
  | sna
  | decNet
  | dataLink
  | lat
  | hyperChannel
  | appleTalk
  | netBios
  | voiceView
  | fireFox
  | banyan
  | atm
  | internetV6
  | cluster
  | ieee12844
  | irda
  | networkDesigners
  deriving DecidableEq, Repr

namespace Family

/-- All known families in the order of their codes. -/
def all : List Family :=
  [.unspecified, .unix, .internet, .impLink, .pup, .chaos, .ipx, .iso, .ecma, .dataKit, .ccitt,
   .sna, .decNet, .dataLink, .lat, .hyperChannel, .appleTalk, .netBios, .voiceView, .fireFox,
   .banyan, .atm, .internetV6, .cluster, .ieee12844, .irda, .networkDesigners]

/-- The code that tags a family. -/
def code : Family → UInt16
  | unspecified => 0
  | unix => 1
  | internet => 2
  | impLink => 3
  | pup => 4
  | chaos => 5
  | ipx => 6
  | iso => 7
  | ecma => 8
  | dataKit => 9
  | ccitt => 10
  | sna => 11
  | decNet => 12
  | dataLink => 13
  | lat => 14
  | hyperChannel => 15
  | appleTalk => 16
  | netBios => 17
  | voiceView => 18
  | fireFox => 19
  | banyan => 21
  | atm => 22
  | internetV6 => 23
  | cluster => 24
  | ieee12844 => 25
  | irda => 26
  | networkDesigners => 28

/-- The family with a given code, if there is one. -/
def ofCode? (c : UInt16) : Option Family :=
  all.find? fun f => f.code == c

/-- The name under which a family is shown. -/
def name : Family → String
  | unspecified => "Unspecified"
  | unix => "Unix"
  | internet => "InterNetwork"
  | impLink => "ImpLink"
  | pup => "Pup"
  | chaos => "Chaos"
  | ipx => "Ipx"
  | iso => "Iso"
  | ecma => "Ecma"
  | dataKit => "DataKit"
  | ccitt => "Ccitt"
  | sna => "Sna"
  | decNet => "DecNet"
  | dataLink => "DataLink"
  | lat => "Lat"
  | hyperChannel => "HyperChannel"
  | appleTalk => "AppleTalk"
  | netBios => "NetBios"
  | voiceView => "VoiceView"
  | fireFox => "FireFox"
  | banyan => "Banyan"
  | atm => "Atm"
  | internetV6 => "InterNetworkV6"
  | cluster => "Cluster"
  | ieee12844 => "Ieee12844"
  | irda => "Irda"
  | networkDesigners => "NetworkDesigners"

/-- The size of a socket address buffer of a family without one of its own. -/
def ipv4BufferSize : Nat := 16

/-- The size of an IPv6 socket address buffer. -/
def ipv6BufferSize : Nat := 28

/-- How many bytes a socket address of the family takes. -/
def bufferSize : Family → Nat
  | internetV6 => ipv6BufferSize
  | _ => ipv4BufferSize

/-- Every family is found again by its code. -/
@[simp] theorem ofCode?_code (f : Family) : ofCode? f.code = some f := by
  cases f <;> rfl

end Family

end Uplink
