/-!
# Cutting a text by bytes

Positions in a text are counted in the bytes of its UTF-8 form. A cut between the bytes of one
character is none.

## Main definitions

- `width`: how many bytes a text takes.
- `takeBytes?`, `dropBytes?`: the text up to a position and from it on.
- `cut?`: the text between two positions.
-/

namespace Uplink.Text

/-- How many bytes a text takes. -/
def width : List Char → Nat
  | [] => 0
  | c :: cs => c.utf8Size + width cs

/-- The text of the first so many bytes. -/
def takeBytes? (count : Nat) : List Char → Option (List Char)
  | [] => if count = 0 then some [] else none
  | c :: cs =>
    if count = 0 then some []
    else if c.utf8Size ≤ count then (takeBytes? (count - c.utf8Size) cs).map (c :: ·)
    else none

/-- The text behind the first so many bytes. -/
def dropBytes? (count : Nat) : List Char → Option (List Char)
  | [] => if count = 0 then some [] else none
  | c :: cs =>
    if count = 0 then some (c :: cs)
    else if c.utf8Size ≤ count then dropBytes? (count - c.utf8Size) cs
    else none

/-- The text from one position up to another. -/
def cut? (cs : List Char) (start stop : Nat) : Option (List Char) :=
  (dropBytes? start cs).bind (takeBytes? (stop - start))

end Uplink.Text
