import Uplink.Endpoint.Basic
import Uplink.Proofs.Address.Text
import Uplink.Proofs.Endpoint.Wire

/-!
# How endpoints are written

The port is the only part of an endpoint that can be written in several ways, with zeros in front.
So a text that is read is shown again as it was exactly if its port has none of them, and what is
shown is always read as the same endpoint.

## Main definitions

- `Endpoint.IsSocket`: the grammar of endpoints, up to the digits of the port.

## Main results

- `Endpoint.parse_eq_ok_iff`: the texts of endpoints, blanks around them left out.
- `Endpoint.parse_text`: IPv4 endpoints are read back.
- `Endpoint.socket_text_exact`: which texts are endpoints, how they are shown again, and that they
  survive the wire.
-/

namespace Uplink.Endpoint

open Text (IsDigitsOf IsPlain trim)

variable {s : String} {cs digits : List Char} {e : Endpoint} {q : Quad} {port : UInt16}

/-- A dotted quad, a colon and what is behind it. -/
def IsSocket (q : Quad) (digits cs : List Char) : Prop :=
  ∃ quad, q.IsDotted quad ∧ cs = quad ++ ':' :: digits

theorem isSocket_iff : IsSocket q digits cs ↔ cs = q.text.toList ++ ':' :: digits := by
  simp [IsSocket, Quad.isDotted_iff]

/-- What stands in front of the colon and behind it are found again. -/
theorem IsSocket.unique {q' : Quad} {digits' : List Char} (socket : IsSocket q digits cs)
    (socket' : IsSocket q' digits' cs) : q = q' ∧ digits = digits' := by
  have colon (rest : List Char) : Quad.EndsDigits (':' :: rest) := Quad.endsDigits_cons rfl rest
  have read := Quad.read?_eq_some_iff.mpr ⟨isSocket_iff.mp socket, colon digits⟩
  have read' := Quad.read?_eq_some_iff.mpr ⟨isSocket_iff.mp socket', colon digits'⟩
  cases read.symm.trans read'
  exact ⟨rfl, rfl⟩

/-! ## Reading -/

/-- A port is read from digits that stand for it, with as many zeros in front as there are. -/
theorem parsePort?_eq_some_iff : parsePort? cs = some port ↔ IsDigitsOf port.toNat cs := by
  simp only [parsePort?, Option.ite_none_right_eq_some, Option.some.injEq, List.all_eq_true]
  constructor
  · rintro ⟨⟨some, all, few⟩, rfl⟩
    exact ⟨some, all, (UInt16.toNat_ofNat_of_lt' (Nat.lt_succ_of_le few)).symm⟩
  · rintro ⟨some, all, value⟩
    rw [value, UInt16.ofNat_toNat]
    exact ⟨⟨some, all, Nat.le_of_lt_succ port.toNat_lt⟩, rfl⟩

/-- A whole text is read as its octets and its port. -/
theorem parse?_eq_some_iff :
    parse? cs = some e ↔ e.family = .internet ∧
      ∃ digits, IsSocket e.address.octets digits cs ∧ IsDigitsOf e.port.toNat digits := by
  simp only [parse?, bind, Option.bind_eq_some_iff, Prod.exists, Quad.read?_eq_some_iff,
    Quad.readChar?_eq_some_iff, parsePort?_eq_some_iff, isSocket_iff]
  constructor
  · rintro ⟨q, _, ⟨rfl, -⟩, digits, rfl, port, numbered, same⟩
    cases same
    exact ⟨rfl, digits, by rw [Address.octets_ofOctets], numbered⟩
  · rintro ⟨internet, digits, rfl, numbered⟩
    have ends : Quad.EndsDigits (':' :: digits) := Quad.endsDigits_cons rfl digits
    refine ⟨e.address.octets, _, ⟨rfl, ends⟩, digits, rfl, e.port, numbered, ?_⟩
    rw [Address.ofOctets_octets internet]
    rfl

/-- An endpoint is read exactly from its octets and its port, blanks around them left out. -/
theorem parse_eq_ok_iff :
    parse s = .ok e ↔ e.family = .internet ∧
      ∃ digits, IsSocket e.address.octets digits (trim s.toList) ∧
        IsDigitsOf e.port.toNat digits := by
  rw [← parse?_eq_some_iff, parse]
  cases parse? (trim s.toList) <;> simp

/-! ## Endpoints that are shown -/

/-- An endpoint is shown as its octets, a colon and the port without superfluous zeros. -/
theorem isSocket_text (internet : e.family = .internet) :
    IsSocket e.address.octets (Nat.toDigits 10 e.port.toNat) e.text.toList := by
  have shown (s : String) : toString s = s := rfl
  have colon : ":".toList = [':'] := rfl
  rw [isSocket_iff, text, ← Address.text_of_internet internet]
  simp [shown, colon, Nat.toString_eq_repr]

/-- What an endpoint is shown as has no blanks to lose. -/
theorem trim_text (internet : e.family = .internet) : trim e.text.toList = e.text.toList := by
  refine Text.IsBare.trim_eq (.of_forall fun c mem => ?_)
  rw [isSocket_iff.mp (isSocket_text internet), List.mem_append, List.mem_cons] at mem
  rcases mem with quad | rfl | digit
  · exact Quad.isBlank_of_mem_text quad
  · decide
  · exact Text.isBlank_of_isDigit (Text.isDigit_of_mem_toDigits digit)

/-- What an IPv4 endpoint is shown as is read as that endpoint. -/
theorem parse_text (internet : e.family = .internet) : parse e.text = .ok e := by
  rw [parse_eq_ok_iff, trim_text internet]
  exact ⟨internet, _, isSocket_text internet, Text.isDigitsOf_toDigits _⟩

/-- A text is shown again as it was exactly if its port has no superfluous zero. -/
theorem text_eq_trim_iff (read : parse s = .ok e) (socket : IsSocket q digits (trim s.toList)) :
    e.text.toList = trim s.toList ↔ IsPlain digits := by
  obtain ⟨internet, digits', socket', numbered⟩ := parse_eq_ok_iff.mp read
  obtain ⟨rfl, rfl⟩ := socket.unique socket'
  rw [numbered.isPlain_iff, isSocket_iff.mp (isSocket_text internet), isSocket_iff.mp socket,
    List.append_cancel_left_eq, List.cons.injEq, and_iff_right rfl, eq_comm]

/-! ## The text form -/

/-- Which texts are endpoints, and what becomes of them. A text is read exactly if, blanks around it
left out, it is a dotted quad, a colon and digits of a value up to 65535, and it is read as the IPv4
endpoint of these octets and this port. It is shown again as it was, without the blanks, exactly if
its port has no superfluous zero, but always as a text of the same endpoint. Every IPv4 endpoint is
read back from what it is shown as, and every endpoint that was read survives the wire. -/
theorem socket_text_exact :
    (∀ s, (∃ e, parse s = .ok e) ↔
      ∃ q digits n, IsSocket q digits (trim s.toList) ∧ IsDigitsOf n digits ∧ n ≤ 65535) ∧
    (∀ s e q digits, parse s = .ok e → IsSocket q digits (trim s.toList) →
      e.address = .ofOctets q ∧ IsDigitsOf e.port.toNat digits ∧
        (e.text.toList = trim s.toList ↔ IsPlain digits)) ∧
    (∀ s e, parse s = .ok e → parse e.text = .ok e) ∧
    (∀ e : Endpoint, e.family = .internet → parse e.text = .ok e) ∧
    (∀ s e, parse s = .ok e → ∃ b : Buffer, e.toBuffer = .ok b ∧ ofBuffer b = .ok e) := by
  refine ⟨fun s => ⟨?_, ?_⟩, fun s e q digits read socket => ?_, fun s e read => ?_,
    fun e => parse_text, fun s e read => ?_⟩
  · rintro ⟨e, read⟩
    obtain ⟨-, digits, socket, numbered⟩ := parse_eq_ok_iff.mp read
    exact ⟨_, digits, _, socket, numbered, Nat.le_of_lt_succ e.port.toNat_lt⟩
  · rintro ⟨q, digits, n, socket, numbered, few⟩
    have fits : (UInt16.ofNat n).toNat = n := UInt16.toNat_ofNat_of_lt' (Nat.lt_succ_of_le few)
    refine ⟨⟨.ofOctets q, .ofNat n⟩, parse_eq_ok_iff.mpr ⟨rfl, digits, ?_, ?_⟩⟩
    · rwa [Address.octets_ofOctets]
    · rwa [fits]
  · obtain ⟨internet, digits', socket', numbered⟩ := parse_eq_ok_iff.mp read
    have shown := text_eq_trim_iff read socket
    obtain ⟨rfl, rfl⟩ := socket.unique socket'
    exact ⟨(Address.ofOctets_octets internet).symm, numbered, shown⟩
  · exact parse_text (parse_eq_ok_iff.mp read).1
  · have internet := (parse_eq_ok_iff.mp read).1
    exact ⟨_, toBuffer_of_internet internet, ofBytes_front internet (Nat.le_refl 8)⟩

/-- A port with zeros in front is read, shown without them, and goes over the wire. -/
theorem socket_text_exact_zeros :
    IsSocket ⟨192, 168, 1, 1⟩ "0006501".toList (trim " 192.168.1.1:0006501\n".toList) ∧
    ∃ e, parse " 192.168.1.1:0006501\n" = .ok e ∧ e.text = "192.168.1.1:6501" ∧
      e.text.toList ≠ trim " 192.168.1.1:0006501\n".toList ∧ parse e.text = .ok e ∧
      ∃ b : Buffer, e.toBuffer = .ok b ∧ ofBuffer b = .ok e := by
  obtain ⟨accepted, shown, again, -, wire⟩ := socket_text_exact
  have socket : IsSocket ⟨192, 168, 1, 1⟩ "0006501".toList
      (trim " 192.168.1.1:0006501\n".toList) := isSocket_iff.mpr (by decide)
  have numbered : IsDigitsOf 6501 "0006501".toList :=
    ⟨by decide, List.all_eq_true.mp rfl, rfl⟩
  obtain ⟨e, read⟩ := (accepted _).mpr ⟨_, _, _, socket, numbered, by decide⟩
  obtain ⟨address, value, plain⟩ := shown _ e _ _ read socket
  have port : e.port = 6501 := UInt16.toNat_inj.mp (value.value.symm.trans numbered.value)
  obtain rfl : e = ⟨.ofOctets ⟨192, 168, 1, 1⟩, 6501⟩ := by rw [← address, ← port]
  refine ⟨socket, _, read, by decide, fun same => ?_, again _ _ read, wire _ _ read⟩
  exact absurd (plain.mp same "006501".toList rfl) (by decide)

end Uplink.Endpoint
