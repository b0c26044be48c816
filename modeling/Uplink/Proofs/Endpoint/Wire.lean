import Uplink.Endpoint.Wire
import Uplink.Proofs.Words

/-!
# The wire format of endpoints

Writer and reader of the sixteen bytes are separate definitions, one by indexed writes into a zeroed
buffer, the other by matching. Both are measured against the layout, which is written out once: the
tag, the port and the octets in eight bytes, of which nothing but the endpoint decides, and eight
reserved zeros behind them.

## Main definitions

- `Endpoint.front`: the eight bytes that hold an endpoint.

## Main results

- `Endpoint.toBuffer_of_internet`: the writer puts down the layout.
- `Endpoint.ofBytes_front`, `Endpoint.front_of_ofBytes`: the reader inverts it, on every sequence of
  bytes that it accepts.
- `Endpoint.ofBytes_cons`: what the reader makes of a sequence that is long enough.
- `Endpoint.wire_exact`: the format in both directions.
-/

namespace Uplink.Endpoint

/-- The bytes that hold an endpoint: the tag, the port with its high byte first, and the octets. -/
def front (e : Endpoint) : List UInt8 :=
  Buffer.tag e.family ++ [(e.port >>> 8).toUInt8, e.port.toUInt8] ++ e.address.octets.toList

/-- The bytes in order. -/
theorem front_of_internet {e : Endpoint} (internet : e.family = .internet) :
    e.front = ([2, 0] : List UInt8) ++ [(e.port >>> 8).toUInt8, e.port.toUInt8] ++
      e.address.octets.toList := by
  have tag : Buffer.tag .internet = [2, 0] := by decide
  rw [front, internet, tag]

/-! ## Writing -/

/-- The writer puts down the layout. -/
theorem toBuffer_of_internet {e : Endpoint} (internet : e.family = .internet) :
    e.toBuffer = .ok ⟨e.front ++ List.replicate 8 0⟩ := by
  rw [toBuffer, if_pos internet, front, internet]
  rfl

/-- The writer refuses every other family by its code. -/
theorem toBuffer_of_foreign {e : Endpoint} (foreign : e.family ≠ .internet) :
    e.toBuffer = .error (.unsupportedFamily e.family.code) := if_neg foreign

/-! ## Reading -/

variable {bytes : List UInt8}

/-- The reader refuses whatever is shorter than the layout. -/
theorem ofBytes_of_short (short : bytes.length < 16) :
    ofBytes bytes = .error (.bufferTooShort 16 bytes.length) := if_pos short

/-- The tag decides about whatever has eight bytes and eight more. -/
theorem ofBytes_cons (t u high low a b c d : UInt8) {rest : List UInt8} (long : 8 ≤ rest.length) :
    ofBytes (t :: u :: high :: low :: a :: b :: c :: d :: rest) =
      if Buffer.codeOf t u = 2 then .ok ⟨.ofOctets ⟨a, b, c, d⟩, Buffer.codeOf low high⟩
      else .error (.unsupportedFamily (Buffer.codeOf t u)) :=
  if_neg (Nat.not_lt.mpr (Nat.add_le_add_right long 8))

/-- Whatever is not shorter than the layout is of that form. -/
theorem exists_of_long (long : 16 ≤ bytes.length) :
    ∃ (t u high low a b c d : UInt8) (rest : List UInt8),
      bytes = t :: u :: high :: low :: a :: b :: c :: d :: rest ∧ 8 ≤ rest.length := by
  match bytes, long with
  | t :: u :: high :: low :: a :: b :: c :: d :: rest, long =>
    exact ⟨t, u, high, low, a, b, c, d, rest, rfl, Nat.le_of_add_le_add_right (b := 8) long⟩

/-- The tag of IPv4 is written in one way only. -/
theorem codeOf_eq_two_iff {t u : UInt8} : Buffer.codeOf t u = 2 ↔ t = 2 ∧ u = 0 := by
  constructor
  · intro code
    obtain ⟨low, high⟩ := Buffer.bytes_codeOf t u
    rw [code] at low high
    exact ⟨low.symm, high.symm⟩
  · rintro ⟨rfl, rfl⟩
    rfl

/-- The reader finds the endpoint in its bytes, whatever stands behind them. -/
theorem ofBytes_front {e : Endpoint} (internet : e.family = .internet) {rest : List UInt8}
    (long : 8 ≤ rest.length) : ofBytes (e.front ++ rest) = .ok e := by
  rw [front_of_internet internet]
  refine (ofBytes_cons 2 0 _ _ _ _ _ _ long).trans ?_
  rw [if_pos (codeOf_eq_two_iff.mpr ⟨rfl, rfl⟩), Buffer.codeOf_bytes]
  exact congrArg (fun a => Except.ok (Endpoint.mk a e.port)) (Address.ofOctets_octets internet)

/-- Only the bytes of an endpoint are read as that endpoint. -/
theorem front_of_ofBytes {e : Endpoint} (read : ofBytes bytes = .ok e) :
    e.family = .internet ∧ 16 ≤ bytes.length ∧ e.front = bytes.take 8 := by
  have long : 16 ≤ bytes.length := by
    refine Nat.not_lt.mp fun short => ?_
    rw [ofBytes_of_short short] at read
    cases read
  obtain ⟨t, u, high, low, a, b, c, d, rest, rfl, behind⟩ := exists_of_long long
  rw [ofBytes_cons _ _ _ _ _ _ _ _ behind] at read
  split at read
  · rename_i tagged
    cases read
    obtain ⟨rfl, rfl⟩ := codeOf_eq_two_iff.mp tagged
    obtain ⟨lows, highs⟩ := Buffer.bytes_codeOf low high
    refine ⟨rfl, long, ?_⟩
    rw [front_of_internet (by rfl), Address.octets_ofOctets, lows, highs]
    rfl
  · cases read

/-- The tag of IPv4 stands in front of exactly those bytes that carry its code. -/
theorem tagged_iff {t u : UInt8} {rest : List UInt8} :
    [2, 0] <+: t :: u :: rest ↔ Buffer.codeOf t u = 2 := by
  rw [codeOf_eq_two_iff, List.cons_prefix_cons, List.cons_prefix_cons, eq_comm (a := t),
    eq_comm (a := u)]
  simp

/-! ## The format -/

/-- The wire format in both directions. Every IPv4 endpoint is written as sixteen bytes from which it
is read back, and no other endpoint is written at all. Bytes are read exactly if there are sixteen
of them or more and the first two are the tag of IPv4; else they are refused for their length, or
for the tag that a buffer shows as its family's code. What was read is written as the first eight
bytes and eight zeros, and the bytes from the eighth on decide nothing but whether there are
enough. -/
theorem wire_exact :
    (∀ e : Endpoint, e.family = .internet →
      ∃ b : Buffer, e.toBuffer = .ok b ∧ b.size = 16 ∧ ofBytes b.bytes = .ok e ∧
        ofBuffer b = .ok e) ∧
    (∀ e : Endpoint, e.family ≠ .internet →
      e.toBuffer = .error (.unsupportedFamily e.family.code)) ∧
    (∀ bytes : List UInt8,
      (∃ e, ofBytes bytes = .ok e) ↔ 16 ≤ bytes.length ∧ [2, 0] <+: bytes) ∧
    (∀ (bytes : List UInt8) (error : CodecError),
      ofBytes bytes = .error error ↔
        (bytes.length < 16 ∧ error = .bufferTooShort 16 bytes.length) ∨
        (16 ≤ bytes.length ∧ ¬ [2, 0] <+: bytes ∧
          ∃ code, (Buffer.mk bytes).familyCode? = some code ∧ error = .unsupportedFamily code)) ∧
    (∀ (bytes : List UInt8) (e : Endpoint), ofBytes bytes = .ok e →
      e.toBuffer = .ok ⟨bytes.take 8 ++ List.replicate 8 0⟩) ∧
    (∀ bytes other : List UInt8, 16 ≤ bytes.length → 16 ≤ other.length →
      bytes.take 8 = other.take 8 → ofBytes bytes = ofBytes other) := by
  refine ⟨fun e internet => ?_, fun e => toBuffer_of_foreign, fun bytes => ?_,
    fun bytes error => ?_, fun bytes e read => ?_, fun bytes other long long' same => ?_⟩
  · have read : ofBytes (e.front ++ List.replicate 8 0) = .ok e :=
      ofBytes_front internet (Nat.le_refl 8)
    exact ⟨_, toBuffer_of_internet internet, rfl, read, read⟩
  · constructor
    · rintro ⟨e, read⟩
      obtain ⟨internet, long, same⟩ := front_of_ofBytes read
      refine ⟨long, List.IsPrefix.trans ?_ (bytes.take_prefix 8)⟩
      rw [← same, front_of_internet internet]
      exact tagged_iff.mpr (codeOf_eq_two_iff.mpr ⟨rfl, rfl⟩)
    · rintro ⟨long, tagged⟩
      obtain ⟨t, u, high, low, a, b, c, d, rest, rfl, behind⟩ := exists_of_long long
      rw [ofBytes_cons _ _ _ _ _ _ _ _ behind, if_pos (tagged_iff.mp tagged)]
      exact ⟨_, rfl⟩
  · rcases Nat.lt_or_ge bytes.length 16 with short | long
    · rw [ofBytes_of_short short]
      constructor
      · rintro ⟨⟩
        exact .inl ⟨short, rfl⟩
      · rintro (⟨-, rfl⟩ | ⟨long, -⟩)
        · rfl
        · omega
    · obtain ⟨t, u, high, low, a, b, c, d, rest, rfl, behind⟩ := exists_of_long long
      rw [ofBytes_cons _ _ _ _ _ _ _ _ behind, tagged_iff]
      constructor
      · intro failed
        split at failed
        · cases failed
        · rename_i other
          cases failed
          exact .inr ⟨long, other, _, rfl, rfl⟩
      · rintro (⟨short, -⟩ | ⟨-, other, code, ⟨⟩, rfl⟩)
        · omega
        · exact if_neg other
  · obtain ⟨internet, -, same⟩ := front_of_ofBytes read
    rw [toBuffer_of_internet internet, same]
  · obtain ⟨t, u, high, low, a, b, c, d, rest, rfl, behind⟩ := exists_of_long long
    obtain ⟨t', u', high', low', a', b', c', d', rest', rfl, behind'⟩ := exists_of_long long'
    cases same
    rw [ofBytes_cons _ _ _ _ _ _ _ _ behind, ofBytes_cons _ _ _ _ _ _ _ _ behind']

/-- The format at an endpoint, and at bytes with something other than zeros at their end. -/
theorem wire_exact_worked :
    (∃ b : Buffer, toBuffer ⟨.ofOctets ⟨192, 168, 1, 1⟩, 6501⟩ = .ok b ∧ b.size = 16 ∧
      ofBytes b.bytes = .ok ⟨.ofOctets ⟨192, 168, 1, 1⟩, 6501⟩) ∧
    toBuffer ⟨⟨.internetV6, 0⟩, 80⟩ = .error (.unsupportedFamily 23) ∧
    toBuffer ⟨.ofOctets ⟨192, 168, 1, 1⟩, 6501⟩ =
      .ok ⟨[2, 0, 25, 101, 192, 168, 1, 1, 0, 0, 0, 0, 0, 0, 0, 0]⟩ ∧
    ofBytes [2, 0, 25, 101, 192, 168, 1, 1, 9, 9, 9, 9, 9, 9, 9, 9, 9] =
      ofBytes [2, 0, 25, 101, 192, 168, 1, 1, 0, 0, 0, 0, 0, 0, 0, 0] := by
  obtain ⟨written, foreign, -, -, again, front⟩ := wire_exact
  obtain ⟨b, buffer, size, read, -⟩ := written ⟨.ofOctets ⟨192, 168, 1, 1⟩, 6501⟩ rfl
  exact ⟨⟨b, buffer, size, read⟩, foreign _ (by decide),
    again [2, 0, 25, 101, 192, 168, 1, 1, 9, 9, 9, 9, 9, 9, 9, 9, 9] _ (by decide),
    front _ _ (by decide) (by decide) rfl⟩

end Uplink.Endpoint
