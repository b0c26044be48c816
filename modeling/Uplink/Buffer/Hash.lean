import Uplink.Buffer.Basic
import Uplink.Quad

/-!
# The fold hash of a buffer

The exclusive or of a buffer read as 32-bit words, low byte first. A last group of one to three
bytes is read the same way, as if it were filled up with zeros.

## Main definitions

- `Buffer.words`: the words of a byte sequence.
- `Buffer.foldHash`: their exclusive or.
-/

namespace Uplink.Buffer

/-- The words of a byte sequence, the last one filled up with zeros. -/
def words : List UInt8 → List UInt32
  | a :: b :: c :: d :: rest => (Quad.mk a b c d).lowFirst :: words rest
  | [a, b, c] => [(Quad.mk a b c 0).lowFirst]
  | [a, b] => [(Quad.mk a b 0 0).lowFirst]
  | [a] => [(Quad.mk a 0 0 0).lowFirst]
  | [] => []

/-- The exclusive or of the buffer's words. -/
def foldHash (b : Buffer) : UInt32 :=
  (words b.bytes).foldl (· ^^^ ·) 0

end Uplink.Buffer
