import Mathlib.Data.List.TakeWhile
import Uplink.Number.Decimal
import Uplink.Proofs.Number.Dyadic
import Uplink.Proofs.Text.Numeral

/-!
# Decimal numbers and the nearest binary fraction

A decimal number is a sign, digits with a point before, among or behind them, and an exponent. The
reader takes each part off the front of the text, so a part ends where the next one begins: digits
end at what is no digit, and nothing that may follow them looks like a sign. A number is then rounded
as the quotient it is; only powers of ten that are far out are decided by their size, from the number
of bits of the digits.

## Main definitions

- `Decimal.Spells`: the texts of a decimal number.
- `Decimal.magnitude`: a decimal number without its sign, as a rational number.

## Main results

- `Decimal.read?_eq_some_iff`: what is read are the spellings.
- `Decimal.toDyadic?_eq_none_iff`: which numbers are too large.
- `Decimal.rounds_toDyadic?`: the others are rounded.
-/

namespace Uplink.Decimal

open Text

variable {cs rest : List Char} {x : Decimal}

/-! ## Spellings -/

/-- A sign, or none, and whether it is a minus. -/
inductive SignOf : List Char → Bool → Prop
  | none : SignOf [] false
  | plus : SignOf ['+'] false
  | minus : SignOf ['-'] true

/-- A point with digits behind it, or nothing. -/
inductive PointOf : List Char → List Char → Prop
  | none : PointOf [] []
  | some (part : List Char) : PointOf ('.' :: part) part

/-- An exponent, which has a sign if need be and digits, or nothing. -/
inductive ExponentOf : List Char → Int → Prop
  | none : ExponentOf [] 0
  | some {c : Char} {sign digits : List Char} {negative : Bool} (letter : c = 'e' ∨ c = 'E')
      (signed : SignOf sign negative) (any : digits ≠ []) (all : ∀ d ∈ digits, isDigit d = true) :
      ExponentOf (c :: (sign ++ digits))
        (if negative then -(decimalValue digits : Int) else decimalValue digits)

/-- A text is that of a decimal number. Of the digits before and behind the point, some are there;
those behind it lower the exponent. -/
inductive Spells : Decimal → List Char → Prop
  | intro {sign whole point part tail : List Char} {negative : Bool} {exponent : Int}
      (signed : SignOf sign negative) (ofWhole : ∀ c ∈ whole, isDigit c = true)
      (pointed : PointOf point part) (ofPart : ∀ c ∈ part, isDigit c = true)
      (any : whole ≠ [] ∨ part ≠ []) (scaled : ExponentOf tail exponent) :
      Spells ⟨negative, decimalValue (whole ++ part), exponent - part.length⟩
        (sign ++ (whole ++ (point ++ tail)))

/-! ## Reading -/

theorem readSign_spec (cs : List Char) :
    ∃ sign negative rest, SignOf sign negative ∧ cs = sign ++ rest ∧
      readSign cs = (negative, rest) := by
  unfold readSign
  split
  next cs => exact ⟨_, _, cs, .minus, rfl, rfl⟩
  next cs => exact ⟨_, _, cs, .plus, rfl, rfl⟩
  next => exact ⟨[], false, cs, .none, rfl, rfl⟩

/-- A sign is found again before what does not begin like one. -/
theorem readSign_append {sign : List Char} {negative : Bool} (signed : SignOf sign negative)
    (apart : '-' ∉ rest.head? ∧ '+' ∉ rest.head?) :
    readSign (sign ++ rest) = (negative, rest) := by
  cases signed with
  | plus => rfl
  | minus => rfl
  | none =>
    rw [List.nil_append]
    unfold readSign
    split
    next cs => exact absurd rfl apart.1
    next cs => exact absurd rfl apart.2
    next => rfl

theorem readDigits?_eq_some_iff {n : Nat} :
    readDigits? cs = some n ↔ cs ≠ [] ∧ (∀ c ∈ cs, isDigit c = true) ∧ decimalValue cs = n := by
  rw [readDigits?, Option.ite_none_right_eq_some, Option.some.injEq, List.all_eq_true, and_assoc]

/-- Digits do not begin like a sign. -/
theorem not_sign_of_digits (rest : List Char) (any : cs ≠ [])
    (all : ∀ c ∈ cs, isDigit c = true) :
    '-' ∉ (cs ++ rest).head? ∧ '+' ∉ (cs ++ rest).head? := by
  obtain ⟨c, cs, rfl⟩ := List.exists_cons_of_ne_nil any
  have digit := all c List.mem_cons_self
  constructor
  · rintro ⟨⟩
    exact Bool.noConfusion digit
  · rintro ⟨⟩
    exact Bool.noConfusion digit

theorem readExponent?_eq_some_iff {e : Int} : readExponent? cs = some e ↔ ExponentOf cs e := by
  constructor
  · intro read
    unfold readExponent? at read
    split at read
    next =>
      obtain rfl := Option.some.inj read
      exact .none
    next c cs =>
      rw [Option.ite_none_right_eq_some] at read
      obtain ⟨letter, read⟩ := read
      obtain ⟨sign, negative, rest, signed, rfl, taken⟩ := readSign_spec cs
      rw [taken] at read
      simp only [bind, Option.map_eq_some_iff, Option.bind_eq_some_iff] at read
      obtain ⟨_, ⟨n, digits, ⟨⟩⟩, rfl⟩ := read
      obtain ⟨any, all, rfl⟩ := readDigits?_eq_some_iff.mp digits
      exact .some letter signed any all
  · intro scaled
    cases scaled with
    | none => rfl
    | @some c sign digits negative letter signed any all =>
      have apart := not_sign_of_digits [] any all
      rw [List.append_nil] at apart
      have value := readDigits?_eq_some_iff.mpr ⟨any, all, rfl⟩
      rw [readExponent?, if_pos letter, readSign_append signed apart]
      dsimp only
      rw [value]
      rfl

/-- An exponent does not begin like a digit or a point. -/
theorem ExponentOf.head {e : Int} (scaled : ExponentOf cs e) :
    ∀ c ∈ cs.head?, isDigit c = false ∧ c ≠ '.' := by
  cases scaled with
  | none => exact nofun
  | some letter signed any all =>
    rintro c ⟨⟩
    rcases letter with rfl | rfl
    · exact ⟨rfl, by decide⟩
    · exact ⟨rfl, by decide⟩

/-- What follows the digits before the point does not begin like one. -/
theorem PointOf.head {point part tail : List Char} {e : Int} (pointed : PointOf point part)
    (scaled : ExponentOf tail e) : ∀ c ∈ (point ++ tail).head?, isDigit c = false := by
  cases pointed with
  | none => exact fun c mem => (scaled.head c mem).1
  | some part =>
    rintro c ⟨⟩
    rfl

/-- What follows the sign does not begin like one. -/
theorem PointOf.not_sign {whole point part : List Char} (pointed : PointOf point part)
    (ofWhole : ∀ c ∈ whole, isDigit c = true) (any : whole ≠ [] ∨ part ≠ []) :
    '-' ∉ (whole ++ (point ++ rest)).head? ∧ '+' ∉ (whole ++ (point ++ rest)).head? := by
  by_cases empty : whole = []
  · subst empty
    cases pointed with
    | none => exact absurd (any.resolve_left fun some => some rfl) fun some => some rfl
    | some part => exact ⟨nofun, nofun⟩
  · exact not_sign_of_digits _ empty ofWhole

/-- What is read is spelled. -/
theorem spells_of_read? (read : read? cs = some x) : Spells x cs := by
  obtain ⟨sign, negative, rest, signed, rfl, taken⟩ := readSign_spec cs
  unfold read? at read
  rw [taken] at read
  dsimp only at read
  have ofWhole : ∀ c ∈ rest.takeWhile isDigit, isDigit c = true := fun _ =>
    List.mem_takeWhile_imp
  have written := rest.takeWhile_append_dropWhile (p := isDigit)
  generalize rest.takeWhile isDigit = whole at read ofWhole written
  generalize rest.dropWhile isDigit = behind at read written
  subst written
  split at read
  next cs =>
    have ofPart : ∀ c ∈ cs.takeWhile isDigit, isDigit c = true := fun _ =>
      List.mem_takeWhile_imp
    have split := cs.takeWhile_append_dropWhile (p := isDigit)
    generalize cs.takeWhile isDigit = part at read ofPart split
    generalize cs.dropWhile isDigit = tail at read split
    subst split
    rw [Option.ite_none_left_eq_some] at read
    obtain ⟨any, found⟩ := read
    obtain ⟨e, scaled, same⟩ := Option.bind_eq_some_iff.mp found
    obtain rfl := Option.some.inj same
    exact .intro signed ofWhole (.some part) ofPart (not_and_or.mp any)
      (readExponent?_eq_some_iff.mp scaled)
  next =>
    rw [Option.ite_none_left_eq_some] at read
    obtain ⟨any, found⟩ := read
    obtain ⟨e, scaled, same⟩ := Option.bind_eq_some_iff.mp found
    obtain rfl := Option.some.inj same
    exact .intro signed ofWhole .none nofun (not_and_or.mp any)
      (readExponent?_eq_some_iff.mp scaled)

/-- What is spelled is read. -/
theorem Spells.read? (spells : Spells x cs) : read? cs = some x := by
  obtain ⟨signed, ofWhole, pointed, ofPart, any, scaled⟩ := spells
  obtain ⟨taken, dropped⟩ := span_isDigit ofWhole (pointed.head scaled)
  unfold Decimal.read?
  rw [readSign_append signed (pointed.not_sign ofWhole any)]
  dsimp only
  rw [taken, dropped]
  cases pointed with
  | some part =>
    obtain ⟨taken, dropped⟩ := span_isDigit ofPart fun c mem => (scaled.head c mem).1
    rw [List.cons_append]
    split
    next cs same =>
      obtain rfl := (List.cons.inj same).2
      rw [taken, dropped, if_neg (not_and_or.mpr any), readExponent?_eq_some_iff.mpr scaled]
      rfl
    next other => exact absurd rfl (other _)
  | none =>
    rw [List.nil_append]
    split
    next cs _ => exact absurd rfl (scaled.head '.' rfl).2
    next =>
      dsimp only
      rw [if_neg (not_and_or.mpr any), readExponent?_eq_some_iff.mpr scaled]
      rfl

/-- What is read are the spellings. -/
theorem read?_eq_some_iff : read? cs = some x ↔ Spells x cs := ⟨spells_of_read?, Spells.read?⟩

/-- A text spells one number. -/
theorem Spells.unique {y : Decimal} (spells : Spells x cs) (spells' : Spells y cs) : x = y :=
  Option.some.inj ((read?_eq_some_iff.mpr spells).symm.trans (read?_eq_some_iff.mpr spells'))

/-! ## Size -/

/-- A decimal number without its sign. -/
def magnitude (x : Decimal) : ℚ := x.digits * 10 ^ x.exponent

theorem magnitude_nonneg (x : Decimal) : 0 ≤ x.magnitude :=
  mul_nonneg (Nat.cast_nonneg _) (zpow_pos (by norm_num) _).le

/-- Powers compare as their exponents do, weighed by how many factors of the one base are at most how
many of the other. -/
theorem pow_le_pow_of_rate {a b p q k m : Nat} (some : p ≠ 0) (bases : 1 ≤ b)
    (rate : a ^ p ≤ b ^ q) (short : q * k ≤ p * m) : a ^ k ≤ b ^ m := by
  refine (Nat.pow_le_pow_iff_left some).mp ?_
  calc (a ^ k) ^ p = (a ^ p) ^ k := Nat.pow_right_comm a k p
    _ ≤ (b ^ q) ^ k := Nat.pow_le_pow_left rate k
    _ = b ^ (q * k) := (Nat.pow_mul b q k).symm
    _ ≤ b ^ (p * m) := Nat.pow_le_pow_right bases short
    _ = (b ^ m) ^ p := by rw [Nat.mul_comm, Nat.pow_mul]

/-- The bits of the digits bound the number from below. -/
theorem lowerPower_le (some : x.digits ≠ 0) : 10 ^ x.lowerPower ≤ x.magnitude := by
  have least : 10 ^ (x.digits.log2 * 3 / 10) ≤ x.digits :=
    Nat.le_trans
      (pow_le_pow_of_rate (p := 3) (q := 10) (by decide) (by decide) (by decide) (by omega))
      (Nat.log2_self_le some)
  rw [lowerPower, magnitude, zpow_add₀ (by norm_num), zpow_natCast]
  gcongr
  exact_mod_cast least

/-- The bits of the digits bound the number from above. -/
theorem lt_upperPower (x : Decimal) : x.magnitude < 10 ^ x.upperPower := by
  have most : x.digits < 10 ^ ((x.digits.log2 + 1) * 31 / 100 + 1) :=
    Nat.lt_of_lt_of_le Nat.lt_log2_self
      (pow_le_pow_of_rate (p := 100) (q := 31) (by decide) (by decide) (by decide) (by omega))
  rw [upperPower, magnitude, zpow_add₀ (by norm_num), zpow_natCast]
  gcongr
  exact_mod_cast most

/-- What is beyond the horizon is beyond all binary fractions. -/
theorem two_pow_le_ten_pow {k : Nat} (short : k ≤ 1200) : (2 : ℚ) ^ (k : ℤ) ≤ 10 ^ (401 : ℤ) := by
  have bound : 2 ^ k ≤ 10 ^ 401 :=
    pow_le_pow_of_rate (p := 100) (q := 31) (by decide) (by decide) (by decide) (by omega)
  rw [zpow_natCast]
  exact_mod_cast bound

/-- A number that is not beyond the horizon is rounded as a quotient. -/
theorem toDyadic?_spec (x : Decimal) :
    (x.toDyadic? = none ∧ 2 ^ (1024 : ℤ) ≤ x.magnitude) ∨
    (x.toDyadic? = some .zero ∧ x.magnitude ≤ 2 ^ (-1075 : ℤ)) ∨
    ∃ n d : Nat, 0 < d ∧ (n : ℚ) / d = x.magnitude ∧ x.toDyadic? = Dyadic.ofRatio? n d := by
  unfold toDyadic?
  by_cases none : x.digits = 0
  · rw [if_pos none]
    refine .inr (.inl ⟨rfl, ?_⟩)
    rw [magnitude, none, Nat.cast_zero, zero_mul]
    exact (Dyadic.two_zpow_pos _).le
  rw [if_neg none]
  by_cases far : horizon < x.lowerPower
  · rw [if_pos far]
    refine .inl ⟨rfl, ?_⟩
    calc (2 : ℚ) ^ (1024 : ℤ) ≤ 10 ^ (401 : ℤ) := two_pow_le_ten_pow (k := 1024) (by decide)
      _ ≤ 10 ^ x.lowerPower := zpow_le_zpow_right₀ (by norm_num) far
      _ ≤ x.magnitude := lowerPower_le none
  rw [if_neg far]
  by_cases deep : x.upperPower < -horizon
  · rw [if_pos deep]
    refine .inr (.inl ⟨rfl, ?_⟩)
    calc x.magnitude ≤ 10 ^ x.upperPower := (lt_upperPower x).le
      _ ≤ 10 ^ (-401 : ℤ) := zpow_le_zpow_right₀ (by norm_num) (Int.le_sub_one_of_lt deep)
      _ ≤ 2 ^ (-1075 : ℤ) := by
        rw [zpow_neg, zpow_neg]
        exact inv_anti₀ (Dyadic.two_zpow_pos _) (two_pow_le_ten_pow (k := 1075) (by decide))
  rw [if_neg deep]
  by_cases nonneg : 0 ≤ x.exponent
  · rw [if_pos nonneg]
    refine .inr (.inr ⟨_, 1, one_pos, ?_, rfl⟩)
    rw [magnitude, Nat.cast_mul, cast_pow_toNat 10 nonneg, Nat.cast_ofNat, Nat.cast_one, div_one]
  · rw [if_neg nonneg]
    have pos : 0 < Nat.pow 10 (-x.exponent).toNat := Nat.pow_pos (by decide)
    refine .inr (.inr ⟨_, _, pos, ?_, rfl⟩)
    rw [magnitude, cast_pow_toNat_neg 10 nonneg, Nat.cast_ofNat, div_inv_eq_mul]

/-- A number is too large from half a unit below `2 ^ 1024` on. -/
theorem toDyadic?_eq_none_iff :
    x.toDyadic? = none ↔ (2 : ℚ) ^ (1024 : ℤ) - 2 ^ (970 : ℤ) ≤ x.magnitude := by
  rcases x.toDyadic?_spec with ⟨none, large⟩ | ⟨zero, small⟩ | ⟨n, d, pos, same, ratio⟩
  · exact iff_of_true none ((sub_le_self _ (Dyadic.two_zpow_pos 970).le).trans large)
  · rw [zero]
    exact iff_of_false nofun (not_le.mpr (small.trans_lt (Dyadic.underflow_lt (by norm_num))))
  · rw [ratio, Dyadic.ofRatio?_eq_none_iff n pos, same]

/-- A number that is not too large is rounded. -/
theorem rounds_toDyadic? {y : Dyadic} (found : x.toDyadic? = some y) :
    Dyadic.Rounds x.magnitude y := by
  rcases x.toDyadic?_spec with ⟨none, large⟩ | ⟨zero, small⟩ | ⟨n, d, pos, same, ratio⟩
  · rw [none] at found
    cases found
  · rw [zero] at found
    obtain rfl := Option.some.inj found
    exact Dyadic.rounds_zero x.magnitude_nonneg small
  · rw [ratio] at found
    rw [← same]
    exact Dyadic.rounds_ofRatio? pos found

end Uplink.Decimal
