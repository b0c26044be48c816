import Uplink.Address.Family
import Uplink.CodecError

/-!
# Socket address buffers

The raw bytes that socket calls take and give. The first two bytes hold the family's code, low byte
first; what follows depends on the family.

## Main definitions

- `Buffer`: a sequence of bytes.
- `Buffer.withSize`, `Buffer.ofFamily`: zeroed buffers with the tag written.
- `Buffer.familyCode?`, `Buffer.family`: the tag of a buffer.
- `Buffer.set`: an indexed write, which never changes the length.
-/

namespace Uplink

/-- The bytes of a socket address. -/
structure Buffer where
  bytes : List UInt8
  deriving DecidableEq, Repr

namespace Buffer

/-- The number of bytes. -/
def size (b : Buffer) : Nat := b.bytes.length

/-- Whether there are no bytes. -/
def isEmpty (b : Buffer) : Bool := b.bytes.isEmpty

/-- The two bytes of a family's code, low byte first. -/
def tag (f : Family) : List UInt8 := [f.code.toUInt8, (f.code >>> 8).toUInt8]

/-- A zeroed buffer of at least two bytes with the family's tag written. -/
def withSize (f : Family) (size : Nat) : Buffer :=
  ⟨tag f ++ List.replicate (size - 2) 0⟩

/-- A zeroed buffer of the family's own size with its tag written. -/
def ofFamily (f : Family) : Buffer := withSize f f.bufferSize

/-- The code that two bytes hold, low byte first. -/
def codeOf (low high : UInt8) : UInt16 := low.toUInt16 ||| (high.toUInt16 <<< 8)

/-- The raw tag, if the buffer is long enough to hold one. -/
def familyCode? (b : Buffer) : Option UInt16 :=
  match b.bytes with
  | low :: high :: _ => some (codeOf low high)
  | _ => none

/-- The family of the tag. -/
def family (b : Buffer) : Except CodecError Family :=
  match b.familyCode? with
  | none => .error (.bufferTooShort 2 b.size)
  | some code =>
    match Family.ofCode? code with
    | some f => .ok f
    | none => .error (.unsupportedFamily code)

/-- Writes one byte; a write past the end changes nothing. -/
def set (b : Buffer) (index : Nat) (value : UInt8) : Buffer :=
  ⟨b.bytes.set index value⟩

@[simp] theorem size_set (b : Buffer) (index : Nat) (value : UInt8) :
    (b.set index value).size = b.size := by
  simp [size, set]

theorem size_withSize (f : Family) (size : Nat) : (withSize f size).size = max size 2 := by
  simp only [Buffer.size, withSize, tag, List.length_append, List.length_replicate,
    List.length_cons, List.length_nil]
  omega

end Buffer

end Uplink
