/-!
# Text in UTF-8

Reads bytes as UTF-8. What is not well formed is replaced: every longest run of bytes that could
have begun a character, and every byte that cannot, by one replacement character.

## Main definitions

- `Utf8.Lead`: what a lead byte announces.
- `Utf8.decodeLossy`: bytes as text, faults replaced.
-/

namespace Uplink.Text.Utf8

/-- What a lead byte announces: how many bytes are to follow, the range of the first of them, and
the bits that the lead byte contributes. -/
structure Lead where
  following : Nat
  low : Nat
  high : Nat
  bits : Nat
  deriving DecidableEq, Repr

/-- What a byte announces as a lead byte of two or more. Overlong forms, surrogates and values above
the last character are excluded by the range of the second byte. -/
def lead? (b : Nat) : Option Lead :=
  if 0xC2 ≤ b ∧ b ≤ 0xDF then some ⟨1, 0x80, 0xBF, b % 0x20⟩
  else if b = 0xE0 then some ⟨2, 0xA0, 0xBF, b % 0x10⟩
  else if b = 0xED then some ⟨2, 0x80, 0x9F, b % 0x10⟩
  else if 0xE1 ≤ b ∧ b ≤ 0xEF then some ⟨2, 0x80, 0xBF, b % 0x10⟩
  else if b = 0xF0 then some ⟨3, 0x90, 0xBF, b % 0x08⟩
  else if 0xF1 ≤ b ∧ b ≤ 0xF3 then some ⟨3, 0x80, 0xBF, b % 0x08⟩
  else if b = 0xF4 then some ⟨3, 0x80, 0x8F, b % 0x08⟩
  else none

/-- What stands for bytes that are no character. -/
def replacement : Char := '\uFFFD'

/-- Reads bytes, in the middle of a character if `pending` tells of one: what is still to follow,
with the bits so far. -/
def decodeFrom : (pending : Option Lead) → List UInt8 → List Char
  | none, [] => []
  | some _, [] => [replacement]
  | none, b :: rest =>
    if b < 0x80 then Char.ofNat b.toNat :: decodeFrom none rest
    else
      match lead? b.toNat with
      | some lead => decodeFrom (some lead) rest
      | none => replacement :: decodeFrom none rest
  | some lead, b :: rest =>
    let n := b.toNat
    if lead.low ≤ n ∧ n ≤ lead.high then
      let bits := lead.bits * 0x40 + n % 0x40
      if lead.following ≤ 1 then Char.ofNat bits :: decodeFrom none rest
      else decodeFrom (some ⟨lead.following - 1, 0x80, 0xBF, bits⟩) rest
    else if b < 0x80 then replacement :: Char.ofNat n :: decodeFrom none rest
    else
      match lead? n with
      | some next => replacement :: decodeFrom (some next) rest
      | none => replacement :: replacement :: decodeFrom none rest

/-- Bytes as text, faults replaced. -/
def decodeLossy (bytes : List UInt8) : String := String.ofList (decodeFrom none bytes)

end Uplink.Text.Utf8
