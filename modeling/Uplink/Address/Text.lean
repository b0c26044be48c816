import Uplink.Address.Basic
import Uplink.CodecError
import Uplink.Text.Blank

/-!
# Address text

An IPv4 address is written as a dotted quad: four decimal octets without superfluous leading zeros,
joined by single dots. A foreign address is written as its family's name, a colon and its value in
hexadecimal.

## Main definitions

- `Quad.text`, `Quad.read?`: the dotted quad and its strict reader, which returns what follows.
- `Address.text`: how an address is shown.
- `Address.parse`: reading an address from a text, blanks around it ignored.
- `Address.ofInt`, `Address.snapshot`: an address from a wide integer, a copy of an IPv4 address.
-/

namespace Uplink

namespace Quad

/-- The dotted quad. -/
def text (q : Quad) : String :=
  s!"{q.a.toNat}.{q.b.toNat}.{q.c.toNat}.{q.d.toNat}"

/-- Whether digits are written without a superfluous leading zero. -/
def isCanonical : List Char → Bool
  | '0' :: _ :: _ => false
  | _ => true

/-- Reads one octet from the front of a text: all digits there are, one to three of them. -/
def readOctet? (cs : List Char) : Option (UInt8 × List Char) :=
  let digits := cs.takeWhile Text.isDigit
  let value := Text.decimalValue digits
  if digits ≠ [] ∧ digits.length ≤ 3 ∧ isCanonical digits ∧ value ≤ 255 then
    some (UInt8.ofNat value, cs.dropWhile Text.isDigit)
  else none

/-- Reads one given character from the front of a text. -/
def readChar? (c : Char) : List Char → Option (List Char)
  | [] => none
  | x :: cs => if x = c then some cs else none

/-- Reads a dotted quad from the front of a text. -/
def read? (cs : List Char) : Option (Quad × List Char) := do
  let (a, cs) ← readOctet? cs
  let (b, cs) ← readOctet? (← readChar? '.' cs)
  let (c, cs) ← readOctet? (← readChar? '.' cs)
  let (d, cs) ← readOctet? (← readChar? '.' cs)
  return (⟨a, b, c, d⟩, cs)

/-- Reads a whole text as a dotted quad. -/
def parse? (cs : List Char) : Option Quad :=
  match read? cs with
  | some (q, []) => some q
  | _ => none

end Quad

namespace Address

/-- How an address is shown: a dotted quad, or family and value of a foreign address. -/
def text (a : Address) : String :=
  match a.ipv4? with
  | some q => q.text
  | none => s!"{a.family.name}:{Text.hexWord a.value}"

/-- Reads an address from a text; blanks around it do not count, but an error shows them. -/
def parse (s : String) : Except CodecError Address :=
  match Quad.parse? (Text.trim s.toList) with
  | some q => .ok (ofOctets q)
  | none => .error (.invalidAddress s .address)

/-- The IPv4 address whose packed value is held in a wider signed integer. -/
def ofInt (n : Int) : Except CodecError Address :=
  if 0 ≤ n ∧ n ≤ 0xFFFFFFFF then .ok (ofValue (UInt32.ofNat n.toNat))
  else .error (.addressOutOfRange n)

/-- The copy that is handed to a socket: only IPv4 addresses have one. -/
def snapshot (a : Address) : Except CodecError Address :=
  if a.isIPv4 then .ok (ofValue a.value) else .error (.unsupportedFamily a.family.code)

end Address

end Uplink
