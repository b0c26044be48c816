import Uplink.Text.Numeral

/-!
# Errors of addresses, buffers and configurations

What can be wrong with an address, a socket address buffer or a static configuration, by cause. The
wording of each cause is in one place, `CodecError.message`.
-/

namespace Uplink

/-- The two forms in which an address is written. -/
inductive AddressForm where
  | address
  | endpoint
  deriving DecidableEq, Repr

/-- What is wrong with a static configuration. -/
inductive ConfigurationFault where
  /-- The address is `0.0.0.0`. -/
  | anyAddress
  /-- The mask, given by its text, is no run of ones followed by zeros. -/
  | maskNotContiguous (mask : String)
  /-- A text has no slash. -/
  | notCidr (text : String)
  /-- The part after the slash is no number of a byte. -/
  | invalidPrefix (text : String) (fault : Text.NumeralError)
  /-- The prefix is longer than an address. -/
  | prefixTooLong (length : UInt8)
  /-- There are more name servers than can be set. -/
  | tooManyServers (limit count : Nat)
  deriving DecidableEq, Repr

/-- Errors of addresses, buffers and configurations. -/
inductive CodecError where
  /-- A buffer is shorter than its layout. -/
  | bufferTooShort (expected actual : Nat)
  /-- A family code, known or not, other than that of IPv4. -/
  | unsupportedFamily (code : UInt16)
  /-- A wide integer is no packed address. -/
  | addressOutOfRange (value : Int)
  /-- A text is no address in the form that was asked for. -/
  | invalidAddress (text : String) (form : AddressForm)
  /-- The parts of a static configuration do not fit. -/
  | invalidConfiguration (fault : ConfigurationFault)
  deriving DecidableEq, Repr

/-- The name of an address form in messages. -/
def AddressForm.description : AddressForm → String
  | address => "IPv4 address"
  | endpoint => "IPv4 socket address"

/-- The wording of a configuration fault. -/
def ConfigurationFault.message : ConfigurationFault → String
  | anyAddress => "static address must not be 0.0.0.0"
  | maskNotContiguous mask => s!"subnet mask {mask} is not contiguous"
  | notCidr text => s!"expected ADDRESS/PREFIX, got '{text}'"
  | invalidPrefix text fault => s!"invalid prefix '{text}': {fault.message}"
  | prefixTooLong length => s!"prefix /{length} is longer than 32 bits"
  | tooManyServers limit count => s!"at most {limit} DNS servers can be set, got {count}"

/-- The wording of an error. -/
def CodecError.message : CodecError → String
  | bufferTooShort expected actual =>
    s!"address buffer too short: expected {expected} bytes, got {actual}"
  | unsupportedFamily code => s!"unsupported address family (code {code})"
  | addressOutOfRange value => s!"address value {value} is outside 0..=0xFFFFFFFF"
  | invalidAddress text form =>
    s!"invalid address: '{text}': invalid {form.description} syntax"
  | invalidConfiguration fault => s!"invalid IP configuration: {fault.message}"

end Uplink
