/-!
# Numerals

Reading whole numbers from text. A numeral may carry one sign, then needs at least one digit, and
its value must stay within a bound; the reader reports the first thing that goes wrong from left
to right.

## Main definitions

- `digit?`: the value of a digit in a base up to 36.
- `readDigits`: a run of digits against a bound.
- `readUnsigned`, `readSigned`: whole numerals.
- `lowerHex`: hexadecimal text of a fixed width.
-/

namespace Uplink.Text

/-- Why a text is no numeral within its bound. -/
inductive NumeralError where
  | empty
  | invalidDigit
  | tooLarge
  | tooSmall
  deriving DecidableEq, Repr

/-- The wording of each fault. -/
def NumeralError.message : NumeralError → String
  | .empty => "cannot parse integer from empty string"
  | .invalidDigit => "invalid digit found in string"
  | .tooLarge => "number too large to fit in target type"
  | .tooSmall => "number too small to fit in target type"

/-- The value of an ASCII digit in the given base; letters of either case stand for ten and more. -/
def digit? (base : Nat) (c : Char) : Option Nat :=
  let value :=
    if '0' ≤ c ∧ c ≤ '9' then c.toNat - '0'.toNat
    else if 'a' ≤ c ∧ c ≤ 'z' then c.toNat - 'a'.toNat + 10
    else if 'A' ≤ c ∧ c ≤ 'Z' then c.toNat - 'A'.toNat + 10
    else base
  if value < base then some value else none

/-- Whether a character is an ASCII decimal digit. -/
def isDigit (c : Char) : Bool := '0' ≤ c && c ≤ '9'

/-- Reads digits in the given base on top of `value`; `overflow` is the fault of a value above
`bound`, reported at the first digit that brings it about. -/
def readDigits (base bound : Nat) (overflow : NumeralError) (value : Nat) :
    List Char → Except NumeralError Nat
  | [] => .ok value
  | c :: cs =>
    match digit? base c with
    | none => .error .invalidDigit
    | some d =>
      let next := value * base + d
      if next ≤ bound then readDigits base bound overflow next cs else .error overflow

/-- Reads an unsigned numeral: an optional plus sign, then digits of a value up to `bound`. -/
def readUnsigned (base bound : Nat) : List Char → Except NumeralError Nat
  | [] => .error .empty
  | ['+'] => .error .invalidDigit
  | '+' :: cs => readDigits base bound .tooLarge 0 cs
  | cs => readDigits base bound .tooLarge 0 cs

/-- Reads a signed decimal numeral of a value from `-bound - 1` to `bound`. -/
def readSigned (bound : Nat) : List Char → Except NumeralError Int
  | [] => .error .empty
  | ['+'] => .error .invalidDigit
  | ['-'] => .error .invalidDigit
  | '+' :: cs => (readDigits 10 bound .tooLarge 0 cs).map Int.ofNat
  | '-' :: cs => (readDigits 10 (bound + 1) .tooSmall 0 cs).map fun n => -(Int.ofNat n)
  | cs => (readDigits 10 bound .tooLarge 0 cs).map Int.ofNat

/-- The value of a run of decimal digits. -/
def decimalValue (digits : List Char) : Nat :=
  digits.foldl (fun n c => n * 10 + (c.toNat - '0'.toNat)) 0

/-- The lower-case hexadecimal digit of a value below sixteen. -/
def hexDigit (n : Nat) : Char :=
  if n < 10 then Char.ofNat ('0'.toNat + n) else Char.ofNat ('a'.toNat + (n - 10))

/-- The lowest `width` hexadecimal digits of a number, highest first. -/
def hexDigits : (width : Nat) → Nat → List Char
  | 0, _ => []
  | width + 1, n => hexDigits width (n / 16) ++ [hexDigit (n % 16)]

/-- The hexadecimal text of a word: `0x` and eight digits. -/
def hexWord (w : UInt32) : String :=
  "0x" ++ String.ofList (hexDigits 8 w.toNat)

@[simp] theorem hexDigits_length (width n : Nat) : (hexDigits width n).length = width := by
  induction width generalizing n with
  | zero => rfl
  | succ width ih => simp [hexDigits, ih]

end Uplink.Text
