import Mathlib.Data.List.Induction
import Uplink.Proofs.Endpoint.Wire

/-!
# Buffers under construction

A buffer is made with its tag and zeros behind it, and then written to byte by byte. Whatever is
written wherever, its length stays, and every byte holds what was written to it last. The tag is two
bytes like all others; it stays as long as nobody writes to them, and then both readers of the tag,
the one that knows all families and the one that takes only IPv4, see the family that the buffer was
made for.

## Main definitions

- `Buffer.setAll`: indexed writes one after the other.
- `Buffer.written?`, `Buffer.lastWritten`: what was written last at an index.

## Main results

- `Buffer.getElem?_setAll`: every byte is the one written last, or the one there was.
- `Buffer.take_setAll_of_untouched`: writes behind the tag leave it in front.
- `Buffer.construction_keeps_shape`: length, bytes and readings of a buffer under construction.
-/

namespace Uplink

/-- Different families have different codes. -/
theorem Family.code_inj {f g : Family} (same : f.code = g.code) : f = g := by
  have found := congrArg Family.ofCode? same
  rw [Family.ofCode?_code, Family.ofCode?_code] at found
  exact Option.some.inj found

namespace Buffer

variable {b : Buffer} {f : Family} {size i : Nat} {value : UInt8} {writes : List (Nat × UInt8)}

/-! ## Writes -/

/-- Indexed writes one after the other. -/
def setAll (b : Buffer) (writes : List (Nat × UInt8)) : Buffer :=
  writes.foldl (fun b w => b.set w.1 w.2) b

/-- What was written last at an index, if anything was. -/
def written? (writes : List (Nat × UInt8)) (i : Nat) : Option UInt8 :=
  (writes.reverse.find? fun w => w.1 == i).map (·.2)

/-- What was written last at an index, or zero. -/
def lastWritten (writes : List (Nat × UInt8)) (i : Nat) : UInt8 := (written? writes i).getD 0

theorem setAll_concat (b : Buffer) (writes : List (Nat × UInt8)) (w : Nat × UInt8) :
    b.setAll (writes ++ [w]) = (b.setAll writes).set w.1 w.2 := by
  rw [setAll, List.foldl_append]
  rfl

theorem written?_concat (writes : List (Nat × UInt8)) (w : Nat × UInt8) (i : Nat) :
    written? (writes ++ [w]) i = if w.1 = i then some w.2 else written? writes i := by
  rw [written?, List.reverse_concat, List.find?_cons]
  split
  · rename_i here
    rw [if_pos (by simpa using here)]
    rfl
  · rename_i elsewhere
    rw [if_neg (by simpa using elsewhere)]
    rfl

theorem written?_eq_none (elsewhere : ∀ w ∈ writes, w.1 ≠ i) : written? writes i = none := by
  rw [written?, List.find?_eq_none.mpr fun w mem => ?_]
  · rfl
  · simpa using elsewhere w (List.mem_reverse.mp mem)

/-- A write beyond the end changes nothing. -/
theorem set_of_size_le (beyond : b.size ≤ i) : b.set i value = b :=
  congrArg Buffer.mk (List.set_eq_of_length_le beyond)

/-- No write changes the length. -/
theorem size_setAll (b : Buffer) (writes : List (Nat × UInt8)) :
    (b.setAll writes).size = b.size := by
  induction writes using List.reverseRecOn with
  | nil => rfl
  | append_singleton writes w ih => rw [setAll_concat, size_set, ih]

/-- Every byte is the one that was written last, or the one that there was. -/
theorem getElem?_setAll (b : Buffer) (writes : List (Nat × UInt8)) (i : Nat) :
    (b.setAll writes).bytes[i]? = b.bytes[i]?.map ((written? writes i).getD ·) := by
  induction writes using List.reverseRecOn with
  | nil => exact Option.map_id'.symm
  | append_singleton writes w ih =>
    have lengths : (b.setAll writes).bytes.length = b.bytes.length := b.size_setAll writes
    rw [setAll_concat, written?_concat, set, List.getElem?_set, ih, lengths]
    by_cases here : w.1 = i
    · rw [if_pos here, if_pos here]
      -- Beyond the end there is no byte before the write and none after it.
      by_cases inside : i < b.bytes.length
      · rw [here, if_pos inside, List.getElem?_eq_getElem inside]
        rfl
      · rw [here, if_neg inside, List.getElem?_eq_none (Nat.not_lt.mp inside)]
        rfl
    · rw [if_neg here, if_neg here]

/-! ## The tag -/

/-- Behind the tag a new buffer has zeros. -/
theorem getElem?_withSize (behind : 2 ≤ i) (inside : i < max size 2) :
    (withSize f size).bytes[i]? = some 0 := by
  have zero : i - 2 < size - 2 := by omega
  rw [withSize, List.getElem?_append_right behind]
  exact List.getElem?_replicate_of_lt zero

/-- Writes behind the tag leave it in front. -/
theorem take_setAll_of_untouched (untouched : ∀ w ∈ writes, 2 ≤ w.1) :
    ((withSize f size).setAll writes).bytes.take 2 = tag f := by
  refine List.ext_getElem? fun i => ?_
  rw [List.getElem?_take]
  split
  · rename_i early
    have unwritten : written? writes i = none :=
      written?_eq_none fun w mem => Nat.ne_of_gt (Nat.lt_of_lt_of_le early (untouched w mem))
    rw [getElem?_setAll, unwritten, withSize, List.getElem?_append_left early]
    exact Option.map_id'
  · rename_i late
    exact (List.getElem?_eq_none (Nat.not_lt.mp late)).symm

/-- The family of a buffer is the one whose tag is in front. -/
theorem family_of_take (tagged : b.bytes.take 2 = tag f) : b.family = .ok f := by
  have code : b.familyCode? = some f.code := by
    rw [familyCode?, ← List.take_append_drop 2 b.bytes, tagged]
    exact congrArg some (codeOf_bytes f.code)
  rw [family, code]
  simp only [Family.ofCode?_code]

/-- What is read as an endpoint of bytes that are long enough and have a tag in front. -/
theorem ofBytes_of_take {bytes : List UInt8} (tagged : bytes.take 2 = tag f)
    (long : 16 ≤ bytes.length) :
    Endpoint.ofBytes bytes = if f = .internet
      then .ok ⟨.ofOctets ⟨bytes[4], bytes[5], bytes[6], bytes[7]⟩, codeOf bytes[3] bytes[2]⟩
      else .error (.unsupportedFamily f.code) := by
  obtain ⟨t, u, high, low, a, b, c, d, rest, rfl, behind⟩ := Endpoint.exists_of_long long
  have code : codeOf t u = f.code := by
    obtain ⟨rfl, rfl⟩ : t = f.code.toUInt8 ∧ u = (f.code >>> 8).toUInt8 := by
      simpa [tag] using tagged
    exact codeOf_bytes f.code
  have foreign : f.code = 2 ↔ f = .internet :=
    ⟨fun same => Family.code_inj same, fun same => congrArg Family.code same⟩
  rw [Endpoint.ofBytes_cons _ _ _ _ _ _ _ _ behind, code]
  exact if_congr foreign rfl rfl

/-! ## The shape -/

/-- A buffer under construction keeps its shape. Whatever is written, its length stays the one it
was made with, which has room for the tag; writes beyond the end change nothing; and every byte
behind the tag holds what was written to it last, or zero. As long as nobody writes to the tag, the
family stays the one that the buffer was made for, and as an endpoint the buffer is refused for its
length if it is too short, else for its family if that is another one than IPv4, and else it is the
endpoint whose port, high byte first, and whose octets were written behind the tag. -/
theorem construction_keeps_shape (f : Family) (size : Nat) (writes : List (Nat × UInt8)) :
    let b := (withSize f size).setAll writes
    let byte := lastWritten writes
    b.size = max size 2 ∧
    (∀ i value, max size 2 ≤ i → b.set i value = b) ∧
    (∀ i, 2 ≤ i → i < max size 2 → b.bytes[i]? = some (byte i)) ∧
    ((∀ w ∈ writes, 2 ≤ w.1) →
      b.family = .ok f ∧
      (max size 2 < 16 → Endpoint.ofBytes b.bytes = .error (.bufferTooShort 16 (max size 2))) ∧
      (16 ≤ max size 2 → f ≠ .internet →
        Endpoint.ofBytes b.bytes = .error (.unsupportedFamily f.code)) ∧
      (16 ≤ max size 2 → f = .internet → ∃ e, Endpoint.ofBytes b.bytes = .ok e ∧
        e.port.toNat = 256 * (byte 2).toNat + (byte 3).toNat ∧
        e.address = .ofOctets ⟨byte 4, byte 5, byte 6, byte 7⟩)) := by
  intro b byte
  have length : b.size = max size 2 := by rw [size_setAll, size_withSize]
  have last (i : Nat) (behind : 2 ≤ i) (inside : i < max size 2) :
      b.bytes[i]? = some (byte i) := by
    rw [getElem?_setAll, getElem?_withSize behind inside]
    rfl
  refine ⟨length, fun i value beyond => set_of_size_le (length ▸ beyond), last,
    fun untouched => ?_⟩
  have tagged : b.bytes.take 2 = tag f := take_setAll_of_untouched untouched
  refine ⟨family_of_take tagged, fun short => ?_, fun long foreign => ?_, fun long ours => ?_⟩
  · rw [← length] at short ⊢
    exact Endpoint.ofBytes_of_short short
  · rw [ofBytes_of_take tagged (long.trans_eq length.symm), if_neg foreign]
  · have enough : 16 ≤ b.bytes.length := long.trans_eq length.symm
    have at_place (i : Nat) (behind : 2 ≤ i) (early : i < 16) :
        b.bytes[i] = byte i :=
      (List.getElem_eq_iff _).mpr (last i behind (Nat.lt_of_lt_of_le early long))
    refine ⟨_, (ofBytes_of_take tagged enough).trans (if_pos ours), ?_, ?_⟩
    · rw [toNat_codeOf, at_place 2 (by decide) (by decide), at_place 3 (by decide) (by decide),
        Nat.add_comm]
    · rw [at_place 4 (by decide) (by decide), at_place 5 (by decide) (by decide),
        at_place 6 (by decide) (by decide), at_place 7 (by decide) (by decide)]

/-- A buffer in which one byte is written twice and one write goes beyond the end, one that has room
for the tag only because it was widened, and one of another family. -/
theorem construction_keeps_shape_rewritten :
    let writes : List (Nat × UInt8) :=
      [(3, 9), (2, 25), (99, 1), (3, 101), (4, 192), (5, 168), (6, 1), (7, 1)]
    let b := (withSize .internet 16).setAll writes
    (∀ w ∈ writes, 2 ≤ w.1) ∧ b.size = 16 ∧ b.set 16 7 = b ∧ b.bytes[3]? = some 101 ∧
    b.family = .ok .internet ∧
    (∃ e, Endpoint.ofBytes b.bytes = .ok e ∧ e.port.toNat = 6501 ∧
      e.address = .ofOctets ⟨192, 168, 1, 1⟩) ∧
    Endpoint.ofBytes ((withSize .internet 0).setAll writes).bytes = .error (.bufferTooShort 16 2) ∧
    Endpoint.ofBytes ((withSize .internetV6 28).setAll writes).bytes =
      .error (.unsupportedFamily 23) := by
  intro writes b
  have untouched : ∀ w ∈ writes, 2 ≤ w.1 := by decide
  obtain ⟨size, beyond, last, readings⟩ := construction_keeps_shape .internet 16 writes
  obtain ⟨family, -, -, endpoint⟩ := readings untouched
  obtain ⟨-, -, -, widened⟩ := construction_keeps_shape .internet 0 writes
  obtain ⟨-, -, -, foreign⟩ := construction_keeps_shape .internetV6 28 writes
  exact ⟨untouched, size, beyond 16 7 (by decide), last 3 (by decide) (by decide), family,
    endpoint (by decide) rfl, (widened untouched).2.1 (by decide),
    (foreign untouched).2.2.1 (by decide) (by decide)⟩

end Buffer

end Uplink
