import Uplink.Pattern.Mode
import Uplink.Text.Numeral

/-!
# Escapes in a pattern

A backslash takes its meaning from a sign, or gives one to a letter.

No tables of the properties of characters are at hand. So where a pattern speaks of characters it
cannot name a kind of them, compare them without regard to case, or ask where words end; where it
speaks of bytes it can, but a single byte above 7F stands for no text.

## Main definitions

- `Escape`: what an escape stands for.
- `Escape.read?`: reads one, from behind the backslash.
- `Escape.fits`, `Escape.fitsBracket`: whether it has a meaning in a mode.
-/

namespace Uplink.Pattern

/-- What an escape stands for. -/
inductive Escape where
  /-- A character; `byte` says that it was written with two hexadecimal digits. -/
  | literal (c : Char) (byte : Bool)
  /-- Digits, blanks or word characters, or all others. -/
  | kind (others : Bool)
  /-- An end of the text. -/
  | textEnd
  /-- An end of a word, or none. -/
  | wordEnd
  deriving DecidableEq, Repr

/-- Whether a single character has a meaning in a mode. -/
def Mode.literalFits (m : Mode) (c : Char) (byte : Bool) : Bool :=
  if m.characters then !m.caseless else !byte || c.toNat ≤ 0x7F

/-- Whether a single character has a meaning between brackets. -/
def Mode.itemFits (m : Mode) (c : Char) : Bool :=
  if m.characters then !m.caseless else c.toNat ≤ 0x7F

namespace Escape

/-- Whether an escape has a meaning in a mode. -/
def fits (m : Mode) : Escape → Bool
  | literal c byte => m.literalFits c byte
  | kind others => !m.characters && !others
  | textEnd => true
  | wordEnd => !m.characters

/-- Whether an escape has a meaning between brackets. -/
def fitsBracket (m : Mode) : Escape → Bool
  | literal c _ => m.itemFits c
  | kind others => !m.characters && !others
  | _ => false

/-- Whether a backslash takes the meaning from a character: it does so from ASCII signs but for the
angle brackets. -/
def isSign (c : Char) : Bool := c.toNat < 128 && !c.isAlphanum && c != '<' && c != '>'

/-- Reads so many hexadecimal digits on top of a value. -/
def readHex? (m : Mode) : (count : Nat) → (value : Nat) → List Char → Option (Nat × List Char)
  | 0, value, cs => some (value, cs)
  | _ + 1, _, [] => none
  | count + 1, value, c :: cs =>
    match Text.digit? 16 c with
    | some d => readHex? m count (16 * value + d) (m.skip cs)
    | none => none

/-- Reads a character by so many hexadecimal digits. -/
def readCodePoint? (m : Mode) (count : Nat) (cs : List Char) : Option (Escape × List Char) :=
  match readHex? m count 0 (m.skip cs) with
  | some (value, rest) =>
    if value.isValidChar then some (literal (Char.ofNat value) (count == 2), rest) else none
  | none => none

/-- The escapes of one letter. -/
def ofLetter? : Char → Option Escape
  | 'a' => some (literal '\x07' false)
  | 'f' => some (literal '\x0c' false)
  | 't' => some (literal '\t' false)
  | 'n' => some (literal '\n' false)
  | 'r' => some (literal '\r' false)
  | 'v' => some (literal '\x0b' false)
  | 'd' | 's' | 'w' => some (kind false)
  | 'D' | 'S' | 'W' => some (kind true)
  | 'A' | 'z' => some textEnd
  | 'b' | 'B' | '<' | '>' => some wordEnd
  | _ => none

/-- Reads an escape from behind the backslash. Properties of characters, by the letter `p`, are
none, as there are no tables of them. -/
def read? (m : Mode) : List Char → Option (Escape × List Char)
  | [] => none
  | c :: cs =>
    if isSign c then some (literal c false, cs)
    else if c = 'x' then readCodePoint? m 2 cs
    else if c = 'u' then readCodePoint? m 4 cs
    else if c = 'U' then readCodePoint? m 8 cs
    else (ofLetter? c).map fun e => (e, cs)

theorem readHex?_length {m : Mode} {count value : Nat} {cs : List Char} {r : Nat × List Char}
    (h : readHex? m count value cs = some r) : r.2.length ≤ cs.length := by
  fun_induction readHex? m count value cs with
  | case1 => cases h; simp
  | case2 => simp at h
  | case3 _ _ c cs _ _ ih =>
    have := m.length_skip_le cs
    have := ih h
    simp only [List.length_cons]
    omega
  | case4 => simp at h

theorem readCodePoint?_length {m : Mode} {count : Nat} {cs : List Char}
    {r : Escape × List Char} (h : readCodePoint? m count cs = some r) :
    r.2.length ≤ cs.length := by
  have skipped := m.length_skip_le cs
  unfold readCodePoint? at h
  split at h
  · next hex =>
    have := readHex?_length hex
    split at h
    · cases h; dsimp only at *; omega
    · contradiction
  · contradiction

/-- Reading an escape takes something off the text. -/
theorem read?_length {m : Mode} {cs : List Char} {r : Escape × List Char}
    (h : read? m cs = some r) : r.2.length < cs.length := by
  match cs with
  | [] => simp [read?] at h
  | c :: cs =>
    simp only [read?] at h
    repeat' split at h
    · cases h; simp
    · have := readCodePoint?_length h; simp; omega
    · have := readCodePoint?_length h; simp; omega
    · have := readCodePoint?_length h; simp; omega
    · obtain ⟨e, _, rfl⟩ := Option.map_eq_some_iff.1 h
      simp

end Escape

end Uplink.Pattern
