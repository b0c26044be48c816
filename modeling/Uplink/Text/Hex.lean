import Uplink.ErrorChain
import Uplink.Text.Blank
import Uplink.Text.Numeral

/-!
# Bytes in hexadecimal

Bytes are written as pairs of hexadecimal digits. They are read from pairs that blanks and colons
may separate; each pair is read as a numeral, so that one digit may have a plus sign in front.

## Main definitions

- `Hex.ofBytes`: bytes as text.
- `Hex.toBytes`: text as bytes, `HexError` telling why it is none.
-/

namespace Uplink.Text

/-- Why a text gives no bytes. -/
inductive HexError where
  | notAscii
  | oddDigits
  | invalidByte (pair : String) (reason : NumeralError)
  deriving DecidableEq, Repr

/-- The wording of each fault. -/
def HexError.chain : HexError → ErrorChain
  | notAscii => .ofMessage "hex input contains non-ASCII characters"
  | oddDigits => .ofMessage "hex input has an odd number of digits"
  | invalidByte pair reason =>
    .wrap s!"invalid hex byte '{pair}'" (.ofMessage reason.message)

namespace Hex

/-- A byte as two lower-case digits. -/
def ofByte (b : UInt8) : List Char := hexDigits 2 b.toNat

/-- Bytes as text. -/
def ofBytes (bytes : List UInt8) : String := String.ofList (bytes.flatMap ofByte)

/-- Whether a character may separate digits. -/
def isSeparator (c : Char) : Bool := isBlank c || c == ':'

/-- Reads pairs of digits, the first faulty pair being reported. -/
def readPairs : List Char → Except HexError (List UInt8)
  | [] => .ok []
  | [_] => .error .oddDigits
  | high :: low :: rest =>
    match readUnsigned 16 255 [high, low] with
    | .error reason => .error (.invalidByte (String.ofList [high, low]) reason)
    | .ok n => (readPairs rest).map (UInt8.ofNat n :: ·)

/-- Text as bytes. That all characters are ASCII is seen to before their number is. -/
def toBytes (text : String) : Except HexError (List UInt8) :=
  let digits := text.toList.filter fun c => !isSeparator c
  if !digits.all (·.toNat < 0x80) then .error .notAscii
  else if digits.length % 2 = 1 then .error .oddDigits
  else readPairs digits

end Hex

end Uplink.Text
