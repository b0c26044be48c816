import Uplink.Cli.Layout

/-!
# The printer

Whatever is printed goes through a printer; every thread has its own. A printer keeps the width of
keys that it was told last. Lines with a key are aligned by that width, which was left behind by an
earlier step and need not fit the key. A tree brings its own width, but its dots are counted by a
subtraction that must not fall below zero, and there is no printer after a step in which it does.

## Main definitions

- `Printer`: a width of keys, and what was printed.
- `Printer.Step`: what a printer can be asked for.
- `Printer.step?`: a printer after a step.
-/

namespace Uplink

/-- What prints on a thread. -/
structure Printer where
  /-- The width of keys that it was told last. -/
  keyWidth : Nat := 0
  /-- The lines that it has printed. -/
  lines : List String := []
  deriving DecidableEq, Repr

namespace Printer

/-- What a printer can be asked for. -/
inductive Step where
  /-- A text as it is. -/
  | line (text : String)
  | status (text : String)
  | header (title : String)
  | separator
  /-- The width of keys that fits some; nothing is printed. -/
  | fit (keys : List String)
  | aligned (key value : String)
  | treeHead (index : Nat) (name : String)
  | tree (pairs : List (String × String))
  deriving DecidableEq, Repr

/-- The lines that are printed at a width of keys. -/
def Step.lines? (width : Nat) : Step → Option (List String)
  | line text => some [text]
  | status text => some [Layout.status text]
  | header title => some [Layout.header title]
  | separator => some [Layout.separator]
  | fit _ => some []
  | aligned key value => some [Layout.aligned width key value]
  | treeHead index name => some [Layout.treeHead index name]
  | tree pairs => Layout.tree? pairs

/-- The width of keys that a step leaves behind. -/
def Step.widthAfter (width : Nat) : Step → Nat
  | fit keys => Layout.keyWidth keys
  | _ => width

/-- A printer after a step, if it gets through. -/
def step? (p : Printer) (s : Step) : Option Printer :=
  (s.lines? p.keyWidth).map fun lines => ⟨s.widthAfter p.keyWidth, p.lines ++ lines⟩

end Printer

end Uplink
