import Uplink.Proofs.Words
import Uplink.SocketOption

/-!
# What survives of the values of options

A value is written by what it is, and read by what its option is for. Where both agree nothing is
lost. Bytes from elsewhere lose what their option has no use for: what stands behind the first word,
and which word other than zero a flag was set by. What is left after that stays as it is.

## Main definitions

- `OptionShape.kept`: what a shape keeps of bytes.

## Main results

- `OptionValue.decodeNumber_eq_ok_iff`, `OptionValue.decodeNumber_eq_error_iff`: a number is read
  from the first four bytes, and from fewer of them none is.
- `OptionValue.decode_encode`: values are read back.
- `OptionValue.encode_of_decode`: what is written of bytes that were read.
- `OptionValue.boundary_exact`: reading and writing in both orders.
-/

namespace Uplink

/-- What a shape keeps of bytes: all of them, the first word, or whether it is zero. -/
def OptionShape.kept : OptionShape → List UInt8 → List UInt8
  | .flag, given => if given.take 4 = [0, 0, 0, 0] then [0, 0, 0, 0] else [1, 0, 0, 0]
  | .number, given => given.take 4
  | .bytes, given => given

theorem Quad.toList_inj {p q : Quad} (same : p.toList = q.toList) : p = q := by
  cases p
  cases q
  cases same
  rfl

/-- What comes of a second step is made of what came of the first. -/
theorem map_eq_ok_iff {E A B : Type} {f : A → B} {x : Except E A} {b : B} :
    x.map f = .ok b ↔ ∃ a, x = .ok a ∧ f a = b := by
  cases x <;> simp [Except.map]

theorem map_eq_error_iff {E A B : Type} {f : A → B} {x : Except E A} {e : E} :
    x.map f = .error e ↔ x = .error e := by
  cases x <;> simp [Except.map]

namespace OptionValue

variable {o : SocketOption} {v : OptionValue} {bytes : List UInt8} {n m : Int32} {e : CodecError}

/-! ## Numbers -/

theorem length_encodeNumber (n : Int32) : (encodeNumber n).length = 4 := rfl

/-- Four bytes are those of one number only. -/
theorem toList_eq_encodeNumber_iff {q : Quad} :
    q.toList = encodeNumber n ↔ q.lowFirst.toInt32 = n := by
  constructor
  · intro same
    rw [Quad.toList_inj same, Quad.lowFirst_ofLowFirst, Int32.toInt32_toUInt32]
  · rintro rfl
    rw [encodeNumber, UInt32.toUInt32_toInt32, Quad.ofLowFirst_lowFirst]

theorem encodeNumber_inj (same : encodeNumber n = encodeNumber m) : n = m := by
  have number := toList_eq_encodeNumber_iff.mp same
  rwa [Quad.lowFirst_ofLowFirst, Int32.toInt32_toUInt32] at number

/-- Whatever holds a number is of this form. -/
theorem exists_of_long (long : 4 ≤ bytes.length) :
    ∃ (q : Quad) (rest : List UInt8), bytes = q.toList ++ rest := by
  match bytes, long with
  | a :: b :: c :: d :: rest, _ => exact ⟨⟨a, b, c, d⟩, rest, rfl⟩

theorem decodeNumber_of_short (short : bytes.length < 4) :
    decodeNumber bytes = .error (.bufferTooShort 4 bytes.length) := by
  rw [decodeNumber]
  rintro a b c d rest rfl
  exact absurd short (Nat.not_lt.mpr (Nat.le_add_left 4 rest.length))

/-- A number is read exactly from its own four bytes, whatever stands behind them. -/
theorem decodeNumber_eq_ok_iff : decodeNumber bytes = .ok n ↔ bytes.take 4 = encodeNumber n := by
  rcases Nat.lt_or_ge bytes.length 4 with short | long
  · rw [decodeNumber_of_short short]
    refine iff_of_false nofun fun same => ?_
    have lengths := congrArg List.length same
    rw [List.take_of_length_le (Nat.le_of_lt short), length_encodeNumber] at lengths
    omega
  · obtain ⟨q, rest, rfl⟩ := exists_of_long long
    show Except.ok q.lowFirst.toInt32 = .ok n ↔ q.toList = encodeNumber n
    rw [Except.ok.injEq, toList_eq_encodeNumber_iff]

/-- Only from fewer than four bytes no number is read. -/
theorem decodeNumber_eq_error_iff :
    decodeNumber bytes = .error e ↔ bytes.length < 4 ∧ e = .bufferTooShort 4 bytes.length := by
  rcases Nat.lt_or_ge bytes.length 4 with short | long
  · rw [decodeNumber_of_short short, Except.error.injEq, and_iff_right short, eq_comm]
  · refine iff_of_false (fun failed => ?_) fun failed => Nat.not_lt.mpr long failed.1
    obtain ⟨q, rest, rfl⟩ := exists_of_long long
    cases failed

/-- Four zeros are the bytes of zero only. -/
theorem encodeNumber_eq_zeros_iff : encodeNumber n = [0, 0, 0, 0] ↔ n = 0 := by
  have zero : encodeNumber 0 = [0, 0, 0, 0] := by decide
  rw [← zero]
  exact ⟨encodeNumber_inj, congrArg encodeNumber⟩

/-! ## Values -/

theorem decode_of_flag (shape : o.shape = .flag) (bytes : List UInt8) :
    decode o bytes = (decodeNumber bytes).map fun n => .flag (n != 0) := by
  rw [decode, shape]

theorem decode_of_number (shape : o.shape = .number) (bytes : List UInt8) :
    decode o bytes = (decodeNumber bytes).map .number := by
  rw [decode, shape]

theorem decode_of_bytes (shape : o.shape = .bytes) (bytes : List UInt8) :
    decode o bytes = .ok (.bytes bytes) := by
  rw [decode, shape]

/-- A value of the shape of its option is read back. -/
theorem decode_encode (fits : v.shape = o.shape) : decode o v.encode = .ok v := by
  have again (n : Int32) : decodeNumber (encodeNumber n) = .ok n := decodeNumber_eq_ok_iff.mpr rfl
  cases v with
  | flag value =>
    rw [decode_of_flag fits.symm, encode, again]
    cases value <;> rfl
  | number n =>
    rw [decode_of_number fits.symm, encode, again]
    rfl
  | bytes given => exact decode_of_bytes fits.symm given

/-- What is read of bytes has the shape of the option, and is written as what the shape keeps of
them. -/
theorem encode_of_decode (read : decode o bytes = .ok v) :
    v.shape = o.shape ∧ v.encode = o.shape.kept bytes := by
  cases shape : o.shape with
  | flag =>
    rw [decode_of_flag shape] at read
    obtain ⟨n, word, rfl⟩ := map_eq_ok_iff.mp read
    refine ⟨rfl, ?_⟩
    rw [OptionShape.kept, decodeNumber_eq_ok_iff.mp word, encode]
    by_cases zero : n = 0
    · rw [if_pos (encodeNumber_eq_zeros_iff.mpr zero), zero]
      rfl
    · rw [if_neg (encodeNumber_eq_zeros_iff.not.mpr zero), bne_iff_ne.mpr zero]
      rfl
  | number =>
    rw [decode_of_number shape] at read
    obtain ⟨n, word, rfl⟩ := map_eq_ok_iff.mp read
    exact ⟨rfl, (decodeNumber_eq_ok_iff.mp word).symm⟩
  | bytes =>
    rw [decode_of_bytes shape] at read
    cases read
    exact ⟨rfl, rfl⟩

/-- Reading fails only for want of a word. -/
theorem decode_eq_error_iff :
    decode o bytes = .error e ↔
      (o.shape = .flag ∨ o.shape = .number) ∧ bytes.length < 4 ∧
        e = .bufferTooShort 4 bytes.length := by
  rw [← decodeNumber_eq_error_iff]
  cases shape : o.shape with
  | flag => rw [decode_of_flag shape, map_eq_error_iff, and_iff_right (.inl rfl)]
  | number => rw [decode_of_number shape, map_eq_error_iff, and_iff_right (.inr rfl)]
  | bytes =>
    rw [decode_of_bytes shape]
    exact iff_of_false nofun fun failed => by rcases failed.1 with ⟨⟨⟩⟩ | ⟨⟨⟩⟩

/-- What was read stays as it is when it is written and read again. -/
theorem decode_encode_of_decode (o : SocketOption) (bytes : List UInt8) :
    (decode o bytes >>= fun v => decode o v.encode) = decode o bytes := by
  cases read : decode o bytes with
  | error e => rfl
  | ok v => exact decode_encode (encode_of_decode read).1

/-- Reading and writing in both orders. A value of the shape of its option is read back from the
bytes it is written as. Bytes are refused exactly if the option is a flag or a number and there are
fewer than four of them, and then for their length. What is read of others is written as they are
for bytes, as the first four of them for a number, and for a flag as the word zero if these are
zero and as the word one if not. So when it is written, it is read again as the same value. -/
theorem boundary_exact :
    (∀ (o : SocketOption) (v : OptionValue), v.shape = o.shape → decode o v.encode = .ok v) ∧
    (∀ (o : SocketOption) (bytes : List UInt8) (e : CodecError),
      decode o bytes = .error e ↔
        (o.shape = .flag ∨ o.shape = .number) ∧ bytes.length < 4 ∧
          e = .bufferTooShort 4 bytes.length) ∧
    (∀ (o : SocketOption) (bytes : List UInt8) (v : OptionValue), decode o bytes = .ok v →
      v.shape = o.shape ∧ v.encode = o.shape.kept bytes) ∧
    (∀ (o : SocketOption) (bytes : List UInt8),
      (decode o bytes >>= fun v => decode o v.encode) = decode o bytes) :=
  ⟨fun _ _ => decode_encode, fun _ _ _ => decode_eq_error_iff, fun _ _ _ => encode_of_decode,
    decode_encode_of_decode⟩

/-- A flag that was set by another word than one, with bytes behind it, a negative number, and three
bytes, which are no number. -/
theorem boundary_exact_foreign_word :
    decode .keepAlive [0, 0, 2, 0, 9] = .ok (.flag true) ∧ (flag true).encode = [1, 0, 0, 0] ∧
    decode .sendTimeout (number (-2)).encode = .ok (.number (-2)) ∧
    decode .error [1, 2, 3] = .error (.bufferTooShort 4 3) ∧
    decode .linger [1, 2, 3] = .ok (.bytes [1, 2, 3]) := by
  obtain ⟨again, refused, kept, -⟩ := boundary_exact
  have read : decode .keepAlive [0, 0, 2, 0, 9] = .ok (.flag true) := by decide
  exact ⟨read, (kept _ _ _ read).2, again .sendTimeout (.number (-2)) rfl,
    (refused .error [1, 2, 3] _).mpr ⟨.inr rfl, by decide, rfl⟩,
    again .linger (.bytes [1, 2, 3]) rfl⟩

end OptionValue

end Uplink
