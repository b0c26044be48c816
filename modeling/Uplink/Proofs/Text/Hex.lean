import Mathlib.Data.List.Forall2
import Uplink.Proofs.Text.Numeral
import Uplink.Text.Hex

/-!
# Which texts are bytes in hexadecimal

What is left of a text without its separators is read two characters at a time, and every two as a
numeral of its own. Two digits are such a numeral, but so is a plus sign with a digit behind it. On
texts without a plus sign the reader accepts exactly an even number of digits.

Digits and their values are listed here once more, so that the arithmetic on character codes in the
reader and the writer is measured against a table.

## Main definitions

- `Hex.IsDigitOf`: the digits of a value, in either case.
- `Hex.Pairs`: the bytes that pairs of characters stand for.
- `Hex.Respells`: a text with separators put in anywhere, and digits in either case.

## Main results

- `Hex.toBytes_eq_ok_iff`: what is read are pairs.
- `Hex.toBytes_accepts`: which texts are accepted, with and without plus signs.
- `Hex.sign_is_accepted`: a text that is accepted although it has a character that is no digit.
- `Hex.toBytes_of_respells`: bytes are read back from every spelling of their text.
-/

namespace Uplink.Text.Hex

/-! ## Digits -/

/-- The character is a hexadecimal digit of the value. -/
def IsDigitOf (n : Nat) (c : Char) : Prop :=
  "0123456789abcdef".toList[n]? = some c ∨ "0123456789ABCDEF".toList[n]? = some c

instance (n : Nat) (c : Char) : Decidable (IsDigitOf n c) :=
  inferInstanceAs (Decidable (_ ∨ _))

variable {c d high low : Char} {cs ds rest : List Char} {n m : Nat} {b : UInt8} {bytes : List UInt8}
  {text : String}

theorem IsDigitOf.lt (digit : IsDigitOf n c) : n < 16 := by
  rcases digit with lower | upper
  · exact (List.getElem?_eq_some_iff.mp lower).1
  · exact (List.getElem?_eq_some_iff.mp upper).1

/-- Only ASCII characters have a value. -/
theorem toNat_lt_of_digit? (value : digit? 16 c = some n) : c.toNat < 128 := by
  have le_iff (d e : Char) : d ≤ e ↔ d.toNat ≤ e.toNat := by
    rw [Char.le_def, UInt32.le_iff_toNat_le]
    rfl
  refine Nat.not_le.mp fun beyond => ?_
  have outside (low high : Char) (ascii : high.toNat < 128) : ¬ (low ≤ c ∧ c ≤ high) := by
    rw [le_iff c high]
    omega
  have none : digit? 16 c = none := by
    simp only [digit?, if_neg (outside '0' '9' (by decide)), if_neg (outside 'a' 'z' (by decide)),
      if_neg (outside 'A' 'Z' (by decide)), Nat.lt_irrefl, if_false]
  rw [none] at value
  cases value

/-- To the base sixteen the digits are those of the table. -/
theorem digit?_sixteen : digit? 16 c = some n ↔ IsDigitOf n c := by
  constructor
  · intro value
    have read : ∀ k < 128, ∀ m ∈ digit? 16 (Char.ofNat k), IsDigitOf m (Char.ofNat k) := by
      decide +kernel
    have listed := read c.toNat (toNat_lt_of_digit? value)
    rw [Char.ofNat_toNat] at listed
    exact listed n value
  · intro digit
    have small := digit.lt
    have lowers : ∀ k < 16, "0123456789abcdef".toList[k]?.map (digit? 16) = some (some k) := by
      decide +kernel
    have uppers : ∀ k < 16, "0123456789ABCDEF".toList[k]?.map (digit? 16) = some (some k) := by
      decide +kernel
    rcases digit with lower | upper
    · have value := lowers n small
      rw [lower] at value
      exact Option.some.inj value
    · have value := uppers n small
      rw [upper] at value
      exact Option.some.inj value

theorem IsDigitOf.isAscii (digit : IsDigitOf n c) : c.toNat < 128 :=
  toNat_lt_of_digit? (digit?_sixteen.mpr digit)

/-- A digit is no separator, and no sign. -/
theorem IsDigitOf.isSeparator (digit : IsDigitOf n c) : isSeparator c = false := by
  have apart : ∀ k < 128, (digit? 16 (Char.ofNat k)).isSome = true →
      Hex.isSeparator (Char.ofNat k) = false := by decide +kernel
  have inside := apart c.toNat digit.isAscii
  rw [Char.ofNat_toNat] at inside
  exact inside (Option.isSome_of_eq_some (digit?_sixteen.mpr digit))

theorem not_isDigitOf_plus : ¬ IsDigitOf n '+' := by
  intro digit
  have read := digit?_sixteen.mpr digit
  exact absurd read nofun

/-! ## Pairs -/

/-- Two characters are a numeral of a value: two digits, the first one higher, or a plus sign and a
digit. -/
inductive IsPairOf (n : Nat) (high low : Char) : Prop
  | digits (h l : Nat) (first : IsDigitOf h high) (second : IsDigitOf l low)
      (value : n = 16 * h + l) : IsPairOf n high low
  | signed (plus : high = '+') (second : IsDigitOf n low) : IsPairOf n high low

/-- The bytes that pairs of characters stand for. -/
inductive Pairs : List Char → List UInt8 → Prop
  | nil : Pairs [] []
  | cons {b : UInt8} {high low : Char} {cs : List Char} {bytes : List UInt8}
      (first : IsPairOf b.toNat high low) (others : Pairs cs bytes) :
      Pairs (high :: low :: cs) (b :: bytes)

theorem IsPairOf.le (pair : IsPairOf n high low) : n ≤ 255 := by
  cases pair with
  | digits h l first second value =>
    have := first.lt
    have := second.lt
    omega
  | signed plus second =>
    have := second.lt
    omega

/-- Digits of values below sixteen, read one after the other, stay below the bound. -/
theorem readDigits_pair :
    readDigits 16 255 .tooLarge 0 [high, low] = .ok n ↔
      ∃ h l, IsDigitOf h high ∧ IsDigitOf l low ∧ n = 16 * h + l := by
  simp only [← digit?_sixteen, readDigits]
  cases first : digit? 16 high with
  | none => simp
  | some h =>
    have h_lt := (digit?_sixteen.mp first).lt
    dsimp only
    rw [if_pos (by omega)]
    cases second : digit? 16 low with
    | none => simp
    | some l =>
      have l_lt := (digit?_sixteen.mp second).lt
      dsimp only
      rw [if_pos (by omega), Except.ok.injEq]
      constructor
      · intro value
        exact ⟨h, l, rfl, rfl, by omega⟩
      · rintro ⟨_, _, ⟨⟩, ⟨⟩, value⟩
        omega

theorem readDigits_single :
    readDigits 16 255 .tooLarge 0 [low] = .ok n ↔ IsDigitOf n low := by
  rw [← digit?_sixteen, readDigits]
  cases digit : digit? 16 low with
  | none => simp
  | some l =>
    have l_lt := (digit?_sixteen.mp digit).lt
    dsimp only
    rw [if_pos (by omega), readDigits, Except.ok.injEq, Option.some.injEq, Nat.zero_mul,
      Nat.zero_add]

/-- What is read as a numeral of two characters. -/
theorem readUnsigned_pair : readUnsigned 16 255 [high, low] = .ok n ↔ IsPairOf n high low := by
  by_cases plus : high = '+'
  · subst high
    rw [readUnsigned, readDigits_single]
    · constructor
      · exact .signed rfl
      · rintro (⟨h, l, first, -, -⟩ | ⟨-, second⟩)
        · exact absurd first not_isDigitOf_plus
        · exact second
    · nofun
  · have unsigned : readUnsigned 16 255 [high, low] =
        readDigits 16 255 .tooLarge 0 [high, low] := by
      rw [readUnsigned]
      · nofun
      · nofun
      · intro cs same
        exact plus (List.head_eq_of_cons_eq same)
    rw [unsigned, readDigits_pair]
    constructor
    · rintro ⟨h, l, first, second, value⟩
      exact .digits h l first second value
    · rintro (⟨h, l, first, second, value⟩ | ⟨same, -⟩)
      · exact ⟨h, l, first, second, value⟩
      · exact absurd same plus

/-- What is read are pairs. -/
theorem readPairs_eq_ok_iff : readPairs cs = .ok bytes ↔ Pairs cs bytes := by
  induction cs using readPairs.induct generalizing bytes with
  | case1 =>
    rw [readPairs]
    constructor
    · rintro ⟨⟩
      exact .nil
    · rintro ⟨⟩
      rfl
  | case2 c =>
    rw [readPairs]
    constructor
    · rintro ⟨⟩
    · rintro ⟨⟩
  | case3 high low rest reason failed =>
    rw [readPairs, failed]
    constructor
    · rintro ⟨⟩
    · rintro (_ | ⟨first, -⟩)
      rw [readUnsigned_pair.mpr first] at failed
      cases failed
  | case4 high low rest n value ih =>
    have pair := readUnsigned_pair.mp value
    have same : (UInt8.ofNat n).toNat = n :=
      UInt8.toNat_ofNat_of_lt' (Nat.lt_of_le_of_lt pair.le (by decide))
    rw [readPairs, value]
    show (readPairs rest).map (UInt8.ofNat n :: ·) = .ok bytes ↔ _
    constructor
    · intro read
      cases tail : readPairs rest with
      | error e =>
        rw [tail] at read
        cases read
      | ok others =>
        rw [tail] at read
        cases read
        exact .cons (same.symm ▸ pair) (ih.mp tail)
    · rintro (_ | ⟨first, others⟩)
      have again := readUnsigned_pair.mpr first
      rw [value, Except.ok.injEq] at again
      rw [ih.mpr others, again]
      show Except.ok (UInt8.ofNat _ :: _) = _
      rw [UInt8.ofNat_toNat]

/-! ## Texts -/

/-- What is left of a text without separators. -/
def stripped (text : String) : List Char := text.toList.filter fun c => !isSeparator c

theorem IsPairOf.isAscii (pair : IsPairOf n high low) : high.toNat < 128 ∧ low.toNat < 128 := by
  cases pair with
  | digits h l first second value => exact ⟨first.isAscii, second.isAscii⟩
  | signed plus second =>
    subst plus
    exact ⟨by decide, second.isAscii⟩

/-- Pairs are ASCII. -/
theorem Pairs.isAscii (pairs : Pairs cs bytes) : ∀ c ∈ cs, c.toNat < 128 := by
  induction pairs with
  | nil => exact nofun
  | cons first others ih =>
    obtain ⟨high, low⟩ := first.isAscii
    exact List.forall_mem_cons.mpr ⟨high, List.forall_mem_cons.mpr ⟨low, ih⟩⟩

/-- There are twice as many characters as bytes. -/
theorem Pairs.length_eq (pairs : Pairs cs bytes) : cs.length = 2 * bytes.length := by
  induction pairs with
  | nil => rfl
  | cons first others ih =>
    rw [List.length_cons, List.length_cons, List.length_cons, ih]
    omega

theorem toBytes_eq (text : String) :
    toBytes text =
      if !(stripped text).all (·.toNat < 0x80) then .error .notAscii
      else if (stripped text).length % 2 = 1 then .error .oddDigits
      else readPairs (stripped text) := rfl

/-- A text is read as the bytes that its pairs stand for. Nothing is refused before the pairs are
looked at that would be pairs. -/
theorem toBytes_eq_ok_iff : toBytes text = .ok bytes ↔ Pairs (stripped text) bytes := by
  rw [← readPairs_eq_ok_iff, toBytes_eq]
  constructor
  · intro read
    split at read
    · cases read
    · split at read
      · cases read
      · exact read
  · intro read
    have pairs := readPairs_eq_ok_iff.mp read
    have ascii : (stripped text).all (·.toNat < 0x80) = true :=
      List.all_eq_true.mpr fun c mem => decide_eq_true (pairs.isAscii c mem)
    have even : (stripped text).length % 2 = 0 := by
      rw [pairs.length_eq, Nat.mul_mod_right]
    rw [ascii, even, if_neg nofun, if_neg Nat.zero_ne_one, read]

/-! ## Digits only -/

/-- The values of the two digits of a byte. -/
def nibbles (b : UInt8) : List Nat := [b.toNat / 16, b.toNat % 16]

/-- Digits come in pairs. -/
theorem Pairs.of_digits (digits : List.Forall₂ IsDigitOf (bytes.flatMap nibbles) cs) :
    Pairs cs bytes := by
  induction bytes generalizing cs with
  | nil =>
    rw [List.forall₂_nil_left_iff.mp digits]
    exact .nil
  | cons b bytes ih =>
    obtain ⟨high, behind, first, others, rfl⟩ := List.forall₂_cons_left_iff.mp digits
    obtain ⟨low, rest, second, tail, rfl⟩ := List.forall₂_cons_left_iff.mp others
    exact .cons (.digits _ _ first second (by omega)) (ih tail)

/-- Pairs without a sign are the digits of their bytes. -/
theorem Pairs.digits (pairs : Pairs cs bytes) (unsigned : '+' ∉ cs) :
    List.Forall₂ IsDigitOf (bytes.flatMap nibbles) cs := by
  induction pairs with
  | nil => exact .nil
  | cons first others ih =>
    obtain ⟨apart, -, rest⟩ : _ ∧ _ ∧ _ := by
      simpa only [List.mem_cons, not_or] using unsigned
    cases first with
    | signed plus second => exact absurd plus.symm apart
    | digits h l first second value =>
      have l_lt := second.lt
      have high : h = (16 * h + l) / 16 := by omega
      have low : l = (16 * h + l) % 16 := by omega
      rw [← value] at high low
      exact .cons (high ▸ first) (.cons (low ▸ second) (ih rest))

/-- Every character has one of the values. -/
theorem exists_isDigitOf {values : List Nat} (digits : List.Forall₂ IsDigitOf values cs) :
    ∀ c ∈ cs, ∃ n, IsDigitOf n c := by
  induction digits with
  | nil => exact nofun
  | cons first others ih => exact List.forall_mem_cons.mpr ⟨⟨_, first⟩, ih⟩

/-- An even number of digits are those of some bytes. -/
theorem exists_pairs (cs : List Char) (even : cs.length % 2 = 0)
    (digits : ∀ c ∈ cs, ∃ n, IsDigitOf n c) : ∃ bytes, Pairs cs bytes := by
  match cs with
  | [] => exact ⟨[], .nil⟩
  | [c] => exact absurd even Nat.one_ne_zero
  | high :: low :: rest =>
    obtain ⟨⟨h, first⟩, ⟨l, second⟩, behind⟩ : _ ∧ _ ∧ _ := by
      simpa only [List.forall_mem_cons] using digits
    have fewer : rest.length % 2 = 0 := by
      rw [List.length_cons, List.length_cons] at even
      omega
    obtain ⟨bytes, others⟩ := exists_pairs rest fewer behind
    have h_lt := first.lt
    have l_lt := second.lt
    have value : (UInt8.ofNat (16 * h + l)).toNat = 16 * h + l :=
      UInt8.toNat_ofNat_of_lt' (Nat.lt_of_le_of_lt (by omega : 16 * h + l ≤ 255) (by decide))
    exact ⟨_, .cons (.digits h l first second value) others⟩

theorem plus_mem_stripped : '+' ∈ stripped text ↔ '+' ∈ text.toList := by
  rw [stripped, List.mem_filter]
  exact and_iff_left (by decide)

/-- Which texts are bytes, and which bytes they are. What is left without separators consists of
pairs, each of them two digits or a plus sign and a digit. So if there is no plus sign, a text is
accepted exactly if an even number of characters is left and all of them are digits, and each byte
has the value of its two digits, the first one higher. -/
theorem toBytes_accepts (text : String) :
    (∀ bytes, toBytes text = .ok bytes ↔ Pairs (stripped text) bytes) ∧
    ('+' ∉ text.toList →
      ((∃ bytes, toBytes text = .ok bytes) ↔
        (stripped text).length % 2 = 0 ∧ ∀ c ∈ stripped text, ∃ n, IsDigitOf n c) ∧
      ∀ bytes, toBytes text = .ok bytes →
        (stripped text).length = 2 * bytes.length ∧
          List.Forall₂ IsDigitOf (bytes.flatMap nibbles) (stripped text)) := by
  refine ⟨fun bytes => toBytes_eq_ok_iff, fun unsigned => ?_⟩
  rw [← plus_mem_stripped] at unsigned
  refine ⟨⟨?_, ?_⟩, fun bytes read => ?_⟩
  · rintro ⟨bytes, read⟩
    have pairs := toBytes_eq_ok_iff.mp read
    exact ⟨by rw [pairs.length_eq, Nat.mul_mod_right], exists_isDigitOf (pairs.digits unsigned)⟩
  · rintro ⟨even, digits⟩
    obtain ⟨bytes, pairs⟩ := exists_pairs _ even digits
    exact ⟨bytes, toBytes_eq_ok_iff.mpr pairs⟩
  · have pairs := toBytes_eq_ok_iff.mp read
    exact ⟨pairs.length_eq, pairs.digits unsigned⟩

/-- Digits of either case, with separators of both kinds between them and inside a pair. -/
theorem toBytes_accepts_separated :
    '+' ∉ "0 2:fF\t".toList ∧ toBytes "0 2:fF\t" = .ok [2, 255] ∧
      List.Forall₂ IsDigitOf [0, 2, 15, 15] (stripped "0 2:fF\t") ∧
      ¬∃ bytes, toBytes "0 2:f" = .ok bytes := by
  have unsigned : '+' ∉ "0 2:fF\t".toList := by decide
  have read : toBytes "0 2:fF\t" = .ok [2, 255] := by decide
  obtain ⟨-, accepts⟩ := toBytes_accepts "0 2:fF\t"
  obtain ⟨-, accepts'⟩ := toBytes_accepts "0 2:f"
  refine ⟨unsigned, read, ((accepts unsigned).2 _ read).2, ?_⟩
  rw [(accepts' (by decide)).1]
  exact fun ⟨even, _⟩ => absurd even (by decide)

/-- Not every text that is accepted is made of digits: a plus sign and a digit are a byte. -/
theorem sign_is_accepted :
    ¬∀ text, (∃ bytes, toBytes text = .ok bytes) ↔
      (stripped text).length % 2 = 0 ∧ ∀ c ∈ stripped text, ∃ n, IsDigitOf n c := by
  intro faithful
  have read : toBytes "+f" = .ok [15] := by decide
  obtain ⟨-, digits⟩ := (faithful "+f").mp ⟨_, read⟩
  obtain ⟨n, digit⟩ := digits '+' (by decide)
  exact not_isDigitOf_plus digit

/-! ## Spellings -/

/-- A text with separators put in anywhere and any letters in the other case. -/
inductive Respells : List Char → List Char → Prop
  | nil : Respells [] []
  | separator {c : Char} {cs ds : List Char} (separates : isSeparator c = true)
      (rest : Respells cs ds) : Respells (c :: cs) ds
  | letter {c d : Char} {cs ds : List Char} (same : c.toLower = d.toLower)
      (rest : Respells cs ds) : Respells (c :: cs) (d :: ds)

/-- A text is spelled in another way if only separators and cases differ. -/
theorem Respells.of_filter
    (same : (cs.filter fun c => !isSeparator c).map Char.toLower = ds.map Char.toLower) :
    Respells cs ds := by
  induction cs generalizing ds with
  | nil =>
    rw [List.map_eq_nil_iff.mp same.symm]
    exact .nil
  | cons c cs ih =>
    cases separates : isSeparator c with
    | true =>
      rw [List.filter_cons_of_neg (by simp [separates])] at same
      exact .separator separates (ih same)
    | false =>
      rw [List.filter_cons_of_pos (by simp [separates]), List.map_cons] at same
      obtain ⟨d, rest, rfl, first, others⟩ := List.map_eq_cons_iff.mp same.symm
      exact .letter first.symm (ih others.symm)

/-- Lower case makes no ASCII character of another one. -/
theorem toNat_lt_of_toLower (ascii : c.toLower.toNat < 128) : c.toNat < 128 := by
  unfold Char.toLower at ascii
  split at ascii
  · rename_i upper
    exact Nat.lt_of_le_of_lt (UInt32.le_iff_toNat_le.mp upper.2) (by decide)
  · exact ascii

/-- A digit is one in either case. -/
theorem isDigitOf_toLower : IsDigitOf n c.toLower ↔ IsDigitOf n c := by
  have either : ∀ k < 128, digit? 16 (Char.ofNat k).toLower = digit? 16 (Char.ofNat k) := by
    decide +kernel
  have same (ascii : c.toNat < 128) : digit? 16 c.toLower = digit? 16 c := by
    have listed := either c.toNat ascii
    rwa [Char.ofNat_toNat] at listed
  constructor
  · intro digit
    have ascii := toNat_lt_of_toLower digit.isAscii
    rwa [← digit?_sixteen, same ascii, digit?_sixteen] at digit
  · intro digit
    rwa [← digit?_sixteen, same digit.isAscii, digit?_sixteen]

/-- The digits that are left of a text are those of the text that it respells. -/
theorem Respells.digits {values : List Nat} (respells : Respells cs ds)
    (digits : List.Forall₂ IsDigitOf values ds) :
    List.Forall₂ IsDigitOf values (cs.filter fun c => !isSeparator c) := by
  induction respells generalizing values with
  | nil => exact digits
  | separator separates rest ih =>
    rw [List.filter_cons_of_neg (by simp [separates])]
    exact ih digits
  | letter same rest ih =>
    obtain ⟨n, values, first, others, rfl⟩ := List.forall₂_cons_right_iff.mp digits
    have digit := isDigitOf_toLower.mp (same ▸ isDigitOf_toLower.mpr first)
    rw [List.filter_cons_of_pos (by simp [digit.isSeparator])]
    exact .cons digit (ih others)

/-- A byte is written with its digits. -/
theorem digits_ofByte (b : UInt8) : List.Forall₂ IsDigitOf (nibbles b) (ofByte b) := by
  have written : ∀ k < 16, IsDigitOf k (hexDigit k) := by decide
  have bound : b.toNat < 256 := b.toNat_lt
  have high : b.toNat / 16 % 16 = b.toNat / 16 := Nat.mod_eq_of_lt (by omega)
  show List.Forall₂ IsDigitOf _ [hexDigit (b.toNat / 16 % 16), hexDigit (b.toNat % 16)]
  rw [high]
  exact .cons (written _ (by omega)) (.cons (written _ (by omega)) .nil)

theorem digits_ofBytes (bytes : List UInt8) :
    List.Forall₂ IsDigitOf (bytes.flatMap nibbles) (ofBytes bytes).toList := by
  rw [ofBytes, String.toList_ofList]
  induction bytes with
  | nil => exact .nil
  | cons b bytes ih => exact List.rel_append (digits_ofByte b) ih

/-- Bytes are read back from every spelling of their text. -/
theorem toBytes_of_respells (respells : Respells text.toList (ofBytes bytes).toList) :
    toBytes text = .ok bytes :=
  toBytes_eq_ok_iff.mpr (.of_digits (respells.digits (digits_ofBytes bytes)))

end Uplink.Text.Hex
