import Uplink.Text.UpperCase

/-!
# The layout of printed lines

Printed lines come in a few forms: lines with a marker, keys aligned by dots, a tree of one level,
and lines across the whole width. The widths of keys are counted in bytes.

## Main definitions

- `Layout.status`, `Layout.aligned`: a marked line, and one with a key.
- `Layout.table`: lines with aligned keys.
- `Layout.treeHead`, `Layout.tree`: a numbered name, and what is below it.
- `Layout.tree?`: the same tree, where its dots are counted by a subtraction that may break down.
- `Layout.header`, `Layout.separator`: lines across the whole width.
-/

namespace Uplink.Layout

/-- The width of a whole line. -/
def width : Nat := 64

/-- A character, so many times. -/
def repeated (n : Nat) (c : Char) : String := String.ofList (List.replicate n c)

/-- A marked line. -/
def status (text : String) : String := "> " ++ text

/-- The width that fits the longest of some keys. -/
def keyWidth (keys : List String) : Nat :=
  keys.foldl (fun w key => max w key.utf8ByteSize) 0

/-- The dots that fill a key up to one more than a width. -/
def dots (width : Nat) (key : String) : String :=
  repeated (width + 1 - key.utf8ByteSize) '.'

/-- A marked line with a key. -/
def aligned (width : Nat) (key value : String) : String :=
  status (key ++ dots width key ++ ": " ++ value)

/-- Marked lines with keys, the keys aligned. -/
def table (rows : List (String × String)) : List String :=
  let width := keyWidth (rows.map (·.1))
  rows.map fun (key, value) => aligned width key value

/-- A numbered name. -/
def treeHead (index : Nat) (name : String) : String := s!"[{index}] {name}"

/-- A line of a tree. -/
def branch (width : Nat) (last : Bool) (pair : String × String) : String :=
  " " ++ (if last then "└─" else "├─") ++ " " ++ pair.1 ++ dots width pair.1 ++ ": " ++ pair.2

/-- The lines below a name: the last one closes the tree. -/
def branches (width : Nat) : List (String × String) → List String
  | [] => []
  | [pair] => [branch width true pair]
  | pair :: rest => branch width false pair :: branches width rest

/-- The lines of a tree, its keys aligned. -/
def tree (pairs : List (String × String)) : List String :=
  branches (keyWidth (pairs.map (·.1))) pairs

/-- A line of a tree. Its dots are counted by a subtraction that must not fall below zero; where it
would, there is no line. -/
def branch? (width : Nat) (last : Bool) (pair : String × String) : Option String :=
  if pair.1.utf8ByteSize ≤ width + 1 then some (branch width last pair) else none

/-- The lines of a tree, one pair after the other, if there is a line for each. -/
def tree? (pairs : List (String × String)) : Option (List String) :=
  let width := keyWidth (pairs.map (·.1))
  pairs.zipIdx.mapM fun (pair, index) => branch? width (index + 1 == pairs.length) pair

/-- A title in capitals, between lines that fill the width. The width that the title needs is
counted before its letters become capitals. -/
def header (title : String) : String :=
  let framed := s!"⟦ {title} ⟧"
  let dashes := width - framed.length
  repeated (dashes / 2) '─' ++ Text.upperCase framed ++ repeated (dashes - dashes / 2) '─'

/-- A heavy line across. -/
def separator : String := repeated width '═'

end Uplink.Layout
