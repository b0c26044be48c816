import Mathlib.Data.List.Induction
import Mathlib.Data.Nat.Bitwise
import Uplink.Text.Numeral

/-!
# What numerals stand for

A decimal numeral is read digit by digit, against a bound that is looked at after every digit. Since
the value only grows, that comes to the same as looking at it once, at the end.

## Main definitions

- `IsNumeralOf`: a text is digits of a given value, maybe after one plus sign.
- `IsDigitsOf`, `IsPlain`: digits of a given value, and digits without a superfluous zero.

## Main results

- `readUnsigned_eq_ok_iff`: what is read are the numerals up to the bound.
- `toDigits_decimalValue`, `IsDigitsOf.isPlain_iff`: digits without a superfluous zero are those
  that are written for their value.
- `hexDigits_inj`: so many hexadecimal digits determine a number.
-/

namespace Uplink.Text

variable {c : Char} {cs digits : List Char} {n v bound : Nat}

/-! ## Digits -/

theorem isDigit_iff_toNat : isDigit c = true ↔ 48 ≤ c.toNat ∧ c.toNat ≤ 57 := by
  rw [isDigit, Bool.and_eq_true, decide_eq_true_iff, decide_eq_true_iff, Char.le_def, Char.le_def,
    UInt32.le_iff_toNat_le, UInt32.le_iff_toNat_le]
  rfl

/-- A digit is the one that is written for its value. -/
theorem isDigit_iff : isDigit c = true ↔ ∃ d < 10, c = d.digitChar := by
  have written : ∀ d < 10, d.digitChar = Char.ofNat (48 + d) := by decide
  rw [isDigit_iff_toNat]
  constructor
  · rintro ⟨low, high⟩
    refine ⟨c.toNat - 48, by omega, ?_⟩
    rw [written _ (by omega), Nat.add_sub_cancel' low, Char.ofNat_toNat]
  · rintro ⟨d, small, rfl⟩
    have bounds : ∀ d < 10, 48 ≤ d.digitChar.toNat ∧ d.digitChar.toNat ≤ 57 := by decide
    exact bounds d small

/-- Digits are found again in a text that goes on with something else, or not at all. -/
theorem span_isDigit {rest : List Char} (all : ∀ c ∈ digits, isDigit c = true)
    (ends : ∀ c ∈ rest.head?, isDigit c = false) :
    (digits ++ rest).takeWhile isDigit = digits ∧
      (digits ++ rest).dropWhile isDigit = rest := by
  rw [List.takeWhile_append_of_pos all, List.dropWhile_append_of_pos all]
  cases rest with
  | nil => simp
  | cons c rest => simp [ends c rfl]

/-- To the base ten only digits count. -/
theorem digit?_ten (c : Char) :
    digit? 10 c = if isDigit c then some (c.toNat - '0'.toNat) else none := by
  have zero : '0'.toNat = 48 := rfl
  cases digit : isDigit c with
  | true =>
    have value := isDigit_iff_toNat.mp digit
    rw [isDigit, Bool.and_eq_true, decide_eq_true_iff, decide_eq_true_iff] at digit
    simp only [digit?, digit, and_self, if_true, zero]
    rw [if_pos (by omega)]
  | false =>
    have other : ¬ ('0' ≤ c ∧ c ≤ '9') := by
      simpa [isDigit] using digit
    simp only [digit?, if_neg other]
    rw [if_neg (Bool.false_ne_true), if_neg]
    split
    · omega
    · split <;> omega

/-! ## Values -/

/-- The value of digits, the first one highest. -/
theorem decimalValue_eq (digits : List Char) :
    decimalValue digits = Nat.ofDigitChars 10 digits 0 := by
  rw [Nat.ofDigitChars_eq_foldl, decimalValue]
  simp only [Nat.mul_comm 10]

/-- More digits do not make a number smaller. -/
theorem le_ofDigitChars (v : Nat) (cs : List Char) : v ≤ Nat.ofDigitChars 10 cs v := by
  rw [Nat.ofDigitChars_eq_ofDigitChars_zero]
  exact Nat.le_trans (Nat.le_mul_of_pos_left v (Nat.pow_pos (by decide))) (Nat.le_add_right _ _)

/-- What is read on top of a value. The bound counts for the first digit as for the last. -/
theorem readDigits_eq_ok_iff {overflow : NumeralError} :
    readDigits 10 bound overflow v cs = .ok n ↔
      (∀ c ∈ cs, isDigit c = true) ∧ Nat.ofDigitChars 10 cs v = n ∧ (cs = [] ∨ n ≤ bound) := by
  induction cs generalizing v with
  | nil => simp [readDigits]
  | cons c cs ih =>
    rw [readDigits, digit?_ten]
    cases digit : isDigit c with
    | false => simp [digit]
    | true =>
      rw [if_pos rfl, Nat.ofDigitChars_cons, Nat.mul_comm 10]
      have grows := le_ofDigitChars (v * 10 + (c.toNat - '0'.toNat)) cs
      by_cases fits : v * 10 + (c.toNat - '0'.toNat) ≤ bound
      · simp only [fits, if_true, ih, List.forall_mem_cons, digit, true_and, reduceCtorEq, false_or]
        refine and_congr_right fun _ => and_congr_right fun value => ?_
        refine or_iff_right_of_imp fun empty => ?_
        rw [← value, empty]
        exact fits
      · simp only [fits, if_false, reduceCtorEq, false_or, false_iff]
        rintro ⟨-, value, few⟩
        omega

/-! ## Numerals -/

/-- A text is digits of a value, maybe after one plus sign. -/
def IsNumeralOf (n : Nat) (cs : List Char) : Prop :=
  ∃ digits, (cs = digits ∨ cs = '+' :: digits) ∧ digits ≠ [] ∧
    (∀ c ∈ digits, isDigit c = true) ∧ decimalValue digits = n

/-- What is read are the numerals of numbers up to the bound. -/
theorem readUnsigned_eq_ok_iff :
    readUnsigned 10 bound cs = .ok n ↔ IsNumeralOf n cs ∧ n ≤ bound := by
  have read (digits : List Char) (some : digits ≠ []) :
      readDigits 10 bound .tooLarge 0 digits = .ok n ↔
        (∀ c ∈ digits, isDigit c = true) ∧ decimalValue digits = n ∧ n ≤ bound := by
    rw [readDigits_eq_ok_iff, decimalValue_eq, or_iff_right some]
  have sign : isDigit '+' = false := rfl
  unfold readUnsigned
  split
  · simp [IsNumeralOf]
  · simp [IsNumeralOf, sign]
  next digits some =>
    rw [read digits some]
    constructor
    · rintro ⟨all, value, few⟩
      exact ⟨⟨digits, .inr rfl, some, all, value⟩, few⟩
    · rintro ⟨⟨_, rfl | same, -, all, value⟩, few⟩
      · exact Bool.noConfusion (sign.symm.trans (all '+' List.mem_cons_self))
      · cases same
        exact ⟨all, value, few⟩
  next some unsigned more =>
    rw [read cs some]
    constructor
    · rintro ⟨all, value, few⟩
      exact ⟨⟨cs, .inl rfl, some, all, value⟩, few⟩
    · rintro ⟨⟨_, rfl | rfl, -, all, value⟩, few⟩
      · exact ⟨all, value, few⟩
      · exact (more _ rfl).elim

/-- A text is the numeral of one number only. -/
theorem IsNumeralOf.unique {m : Nat} (numeral : IsNumeralOf n cs) (other : IsNumeralOf m cs) :
    n = m := by
  have read : readUnsigned 10 (n + m) cs = .ok n :=
    readUnsigned_eq_ok_iff.mpr ⟨numeral, Nat.le_add_right n m⟩
  have again : readUnsigned 10 (n + m) cs = .ok m :=
    readUnsigned_eq_ok_iff.mpr ⟨other, Nat.le_add_left m n⟩
  exact Except.ok.inj (read.symm.trans again)

/-! ## Canonical digits -/

/-- Digits without a superfluous zero in front are those that are written for their value. -/
theorem toDigits_decimalValue (some : digits ≠ []) (all : ∀ c ∈ digits, isDigit c = true)
    (canonical : ∀ rest, digits = '0' :: rest → rest = []) :
    Nat.toDigits 10 (decimalValue digits) = digits := by
  rw [decimalValue_eq]
  induction digits using List.reverseRecOn with
  | nil => exact (some rfl).elim
  | append_singleton front c ih =>
    obtain ⟨d, small, rfl⟩ := isDigit_iff.mp (all c (by simp))
    rw [Nat.ofDigitChars_append, Nat.ofDigitChars_cons_digitChar_of_lt_ten small,
      Nat.ofDigitChars_nil]
    by_cases first : front = []
    · subst first
      rw [Nat.ofDigitChars_nil, Nat.mul_zero, Nat.zero_add, Nat.toDigits_of_lt_base small]
      rfl
    · have written := ih first (fun c mem => all c (List.mem_append_left _ mem))
        fun rest same => by simpa [same] using canonical (rest ++ [d.digitChar]) (by simp [same])
      have positive : 0 < Nat.ofDigitChars 10 front 0 := by
        refine Nat.pos_of_ne_zero fun zero => ?_
        rw [zero, Nat.toDigits_zero] at written
        simpa using canonical [d.digitChar] (by rw [← written]; rfl)
      rw [← Nat.toDigits_append_toDigits (by decide) positive small, written,
        Nat.toDigits_of_lt_base small]

/-! ## Numbers and their digits -/

/-- One or more digits that stand for a number. Zeros may lead. -/
structure IsDigitsOf (n : Nat) (cs : List Char) : Prop where
  some : cs ≠ []
  all : ∀ c ∈ cs, isDigit c = true
  value : decimalValue cs = n

/-- No zero stands in front of other digits. -/
def IsPlain (cs : List Char) : Prop := ∀ rest, cs = '0' :: rest → rest = []

theorem isDigit_of_mem_toDigits (mem : c ∈ Nat.toDigits 10 n) : isDigit c = true := by
  have digit := Nat.isDigit_of_mem_toDigits (by decide) (by decide) mem
  simpa [isDigit, Char.isDigit, Char.le_def, UInt32.le_iff_toNat_le] using digit

theorem decimalValue_toDigits (n : Nat) : decimalValue (Nat.toDigits 10 n) = n := by
  rw [decimalValue_eq, Nat.ofDigitChars_ten_toDigits]

/-- A number is written in digits that stand for it. -/
theorem isDigitsOf_toDigits (n : Nat) : IsDigitsOf n (Nat.toDigits 10 n) :=
  ⟨Nat.toDigits_ne_nil, fun _ => isDigit_of_mem_toDigits, decimalValue_toDigits n⟩

/-- A number is written without a superfluous zero. -/
theorem isPlain_toDigits (n : Nat) : IsPlain (Nat.toDigits 10 n) := by
  induction n using Nat.strongRecOn with
  | ind n ih =>
    intro rest zero
    rcases Nat.lt_or_ge n 10 with small | large
    · rw [Nat.toDigits_of_lt_base small] at zero
      exact (List.cons.inj zero).2.symm
    · -- The digits in front of the last one would be a lone zero, and stand for less than one.
      rw [Nat.toDigits_of_base_le (by decide) large] at zero
      obtain ⟨front, empty⟩ | ⟨front, higher, -⟩ := List.append_eq_cons_iff.mp zero
      · exact absurd front Nat.toDigits_ne_nil
      · have lone := ih (n / 10) (by omega) front higher
        have value := decimalValue_toDigits (n / 10)
        rw [higher, lone] at value
        have none : n / 10 = 0 := value.symm
        omega

/-- Digits are those that are written for their number exactly if they are plain. -/
theorem IsDigitsOf.isPlain_iff (digits : IsDigitsOf n cs) :
    IsPlain cs ↔ cs = Nat.toDigits 10 n := by
  constructor
  · intro plain
    rw [← digits.value, toDigits_decimalValue digits.some digits.all plain]
  · rintro rfl
    exact isPlain_toDigits n

/-! ## Hexadecimal digits of a fixed width -/

theorem hexDigit_inj {m : Nat} (n_lt : n < 16) (m_lt : m < 16) (same : hexDigit n = hexDigit m) :
    n = m := by
  have apart : ∀ n < 16, ∀ m < 16, hexDigit n = hexDigit m → n = m := by decide
  exact apart n n_lt m m_lt same

/-- Digits of a fixed width determine the number. -/
theorem hexDigits_inj {width m : Nat} (n_lt : n < 16 ^ width) (m_lt : m < 16 ^ width)
    (same : hexDigits width n = hexDigits width m) : n = m := by
  induction width generalizing n m with
  | zero => omega
  | succ width ih =>
    obtain ⟨front, last⟩ := List.append_inj' same rfl
    have high := ih (by omega) (by omega) front
    have low := hexDigit_inj (Nat.mod_lt n (by decide)) (Nat.mod_lt m (by decide))
      (List.cons.inj last).1
    omega

/-- The hexadecimal text of a word determines the word. -/
theorem hexWord_inj {v w : UInt32} (same : hexWord v = hexWord w) : v = w := by
  have digits := congrArg String.toList same
  simp only [hexWord, String.toList_append, String.toList_ofList, List.append_cancel_left_eq]
    at digits
  exact UInt32.toNat_inj.mp (hexDigits_inj v.toNat_lt w.toNat_lt digits)

end Uplink.Text
