import Uplink.Number.Dyadic
import Uplink.Text.Numeral

/-!
# Decimal numbers

A number is written in decimal, with a sign, a point and an exponent if need be, or it is a word
for what is not finite.

## Main definitions

- `Decimal.read?`: the grammar of decimal numbers.
- `Decimal.isUnbounded`: the words for infinity and for no number.
- `Decimal.toDyadic?`: the nearest binary fraction.
-/

namespace Uplink

/-- A decimal number: `digits · 10 ^ exponent`, with a sign. -/
structure Decimal where
  negative : Bool
  digits : Nat
  exponent : Int
  deriving DecidableEq, Repr

namespace Decimal

/-- Takes a sign off the front of a text. -/
def readSign : List Char → Bool × List Char
  | '-' :: cs => (true, cs)
  | '+' :: cs => (false, cs)
  | cs => (false, cs)

/-- Reads a whole text as digits, of which there must be one. -/
def readDigits? (cs : List Char) : Option Nat :=
  if cs ≠ [] ∧ cs.all Text.isDigit then some (Text.decimalValue cs) else none

/-- Reads a whole text as an exponent: nothing, or `e` with a sign and digits. -/
def readExponent? : List Char → Option Int
  | [] => some 0
  | c :: cs =>
    if c = 'e' ∨ c = 'E' then
      let (negative, cs) := readSign cs
      (readDigits? cs).map fun n => if negative then -(n : Int) else n
    else none

/-- Reads a whole text as a decimal number: digits with a point before, among or behind them, and
an exponent. -/
def read? (cs : List Char) : Option Decimal := do
  let (negative, cs) := readSign cs
  let whole := cs.takeWhile Text.isDigit
  let (part, rest) := match cs.dropWhile Text.isDigit with
    | '.' :: cs => (cs.takeWhile Text.isDigit, cs.dropWhile Text.isDigit)
    | cs => ([], cs)
  if whole = [] ∧ part = [] then none
  else
    let exponent ← readExponent? rest
    some ⟨negative, Text.decimalValue (whole ++ part), exponent - part.length⟩

/-- The words for what is not a finite number, in lower case. -/
def unboundedWords : List String := ["inf", "infinity", "nan"]

/-- Whether a whole text is a word for what is not a finite number, with a sign if need be. -/
def isUnbounded (cs : List Char) : Bool :=
  unboundedWords.contains (String.ofList ((readSign cs).2.map Char.toLower))

/-- Powers of ten above this one are too large for a binary fraction, and below its inverse they are
nothing. -/
def horizon : Int := 400

/-- A power of ten that a number is not below; the digits are not zero. -/
def lowerPower (x : Decimal) : Int := (Nat.log2 x.digits * 3 / 10 : Nat) + x.exponent

/-- A power of ten that a number is below. -/
def upperPower (x : Decimal) : Int := ((Nat.log2 x.digits + 1) * 31 / 100 + 1 : Nat) + x.exponent

/-- The binary fraction nearest to a decimal number without its sign; none if it is too large. -/
def toDyadic? (x : Decimal) : Option Dyadic :=
  if x.digits = 0 then some .zero
  else if horizon < x.lowerPower then none
  else if x.upperPower < -horizon then some .zero
  else if 0 ≤ x.exponent then Dyadic.ofRatio? (x.digits * Nat.pow 10 x.exponent.toNat) 1
  else Dyadic.ofRatio? x.digits (Nat.pow 10 (-x.exponent).toNat)

end Decimal

end Uplink
