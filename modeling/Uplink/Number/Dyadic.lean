/-!
# Binary fractions of 53 bits

The numbers `m · 2 ^ e` with `m` of at most 53 bits and `e` from -1074 to 971, and the rounding of a
quotient to the nearest of them. Everything is exact arithmetic on natural numbers; a value halfway
between two neighbours goes to the even one.

## Main definitions

- `roundDiv`: the whole number nearest to a quotient.
- `Dyadic.ofRatio?`: the binary fraction nearest to a quotient, if it is not too large.
- `Dyadic.scaled`: a multiple of a binary fraction, rounded to a whole number.
- `Dyadic.fixed`: the decimal text with two places.
-/

namespace Uplink

/-- The whole number nearest to `n / d`; of two, the even one. -/
def roundDiv (n d : Nat) : Nat :=
  let q := n / d
  let twice := 2 * (n % d)
  if twice < d then q
  else if d < twice then q + 1
  else if q % 2 = 0 then q else q + 1

/-- The number `mantissa · 2 ^ exponent`. -/
structure Dyadic where
  mantissa : Nat
  exponent : Int
  deriving DecidableEq, Repr

namespace Dyadic

/-- The bits of a mantissa. -/
def precision : Nat := 53

/-- The exponent of the smallest binary fraction. -/
def minExponent : Int := -1074

/-- The binary logarithm of the first number that is too large. -/
def limit : Nat := 1024

/-- Zero. -/
def zero : Dyadic := ⟨0, 0⟩

/-- The quotient `n / d` divided by `2 ^ e`, as a quotient. -/
def rescale (n d : Nat) (e : Int) : Nat × Nat :=
  if 0 ≤ e then (n, d * Nat.pow 2 e.toNat) else (n * Nat.pow 2 (-e).toNat, d)

/-- The exponent with which `n / d` has a mantissa of full precision, where there is one that
small. -/
def exponentOf (n d : Nat) : Int :=
  let e : Int := (n.log2 : Int) - d.log2 - (precision - 1)
  let (a, b) := rescale n d e
  max minExponent (if a < b * Nat.pow 2 (precision - 1) then e - 1 else e)

/-- The binary fraction nearest to `n / d`; none if it would be too large. -/
def ofRatio? (n d : Nat) : Option Dyadic :=
  if n = 0 then some zero
  else
    let e := exponentOf n d
    let (a, b) := rescale n d e
    let m := roundDiv a b
    if (limit : Int) ≤ (m.log2 : Int) + e then none else some ⟨m, e⟩

/-- A binary fraction as a quotient. -/
def toRatio (x : Dyadic) : Nat × Nat :=
  if 0 ≤ x.exponent then (x.mantissa * Nat.pow 2 x.exponent.toNat, 1)
  else (x.mantissa, Nat.pow 2 (-x.exponent).toNat)

/-- The sum of two binary fractions, rounded to one. -/
def add? (x y : Dyadic) : Option Dyadic :=
  let (a, b) := x.toRatio
  let (c, d) := y.toRatio
  ofRatio? (a * d + c * b) (b * d)

/-- The multiple of a binary fraction, rounded to a whole number. -/
def scaled (x : Dyadic) (factor : Nat) : Nat :=
  let (n, d) := x.toRatio
  roundDiv (n * factor) d

/-- The decimal text of a binary fraction, rounded to two places. -/
def fixed (x : Dyadic) : String :=
  let hundredths := x.scaled 100
  let rest := hundredths % 100
  s!"{hundredths / 100}." ++ (if rest < 10 then s!"0{rest}" else s!"{rest}")

end Dyadic

end Uplink
