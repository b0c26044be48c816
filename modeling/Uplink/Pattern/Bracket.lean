import Uplink.Pattern.Escape
import Uplink.Pattern.Nesting

/-!
# Brackets in a pattern

Brackets hold a set of characters: single ones, ranges, kinds by name, sets in brackets of their
own, and operators that combine what stands on their two sides, from left to right.

A hyphen is itself at the start, before the closing bracket and before an operator, and a closing
bracket is itself at the start.

## Main definitions

- `Bracket.Token`, `Bracket.token?`: what stands in brackets, one thing after the other.
- `Bracket.Side`: what has been read of one pair of brackets.
- `Bracket.read?`: reads brackets and says how deep they nest.
-/

namespace Uplink.Pattern.Bracket

/-- The things that stand in brackets. -/
inductive Token where
  /-- A single character, a range or a kind. -/
  | item
  | operator
  /-- Opening brackets, with the characters at their start that are only themselves there. -/
  | opening (items : Row)
  | closing
  deriving DecidableEq, Repr

/-- The kinds of characters that have a name in brackets. -/
def kindNames : List String :=
  ["alnum", "alpha", "ascii", "blank", "cntrl", "digit", "graph", "lower", "print", "punct",
   "space", "upper", "word", "xdigit"]

/-- Reads the name of a kind up to its end. -/
def readKindName? (cs : List Char) : Option (List Char) :=
  match cs.dropWhile (· != ':') with
  | ':' :: ']' :: rest =>
    if kindNames.contains (String.ofList (cs.takeWhile (· != ':'))) then some rest else none
  | _ => none

/-- Reads a kind by its name from behind an opening bracket, and whether all others are meant. -/
def readKind? : List Char → Option (Bool × List Char)
  | ':' :: '^' :: cs => (readKindName? cs).map fun rest => (true, rest)
  | ':' :: cs => (readKindName? cs).map fun rest => (false, rest)
  | _ => none

/-- Whether a kind by its name has a meaning in a mode. -/
def kindFits (m : Mode) (others : Bool) : Bool :=
  if m.characters then !m.caseless else !others

/-- Takes the hyphens at the start of brackets. -/
def takeHyphens (m : Mode) (items : Row) (cs : List Char) : Row × List Char :=
  match cs with
  | '-' :: rest => takeHyphens m (items.push 0) (m.skip rest)
  | _ => (items, cs)
termination_by cs.length
decreasing_by
  have := m.length_skip_le rest
  simp only [List.length_cons]
  omega

/-- Takes a circumflex at the start of brackets, which makes the set that of all others. -/
def takeCircumflex (m : Mode) (cs : List Char) : Bool × List Char :=
  match m.skip cs with
  | '^' :: rest => (true, m.skip rest)
  | rest => (false, rest)

/-- Takes the characters at the start of brackets that are only themselves there: hyphens, or a
closing bracket. -/
def takeFirst (m : Mode) (cs : List Char) : Row × List Char :=
  match takeHyphens m {} cs with
  | (⟨0, _⟩, ']' :: rest) => (Row.ofDepths [0], m.skip rest)
  | r => r

/-- Reads the start of brackets from behind the opening one. A set of all others has no meaning
among bytes. -/
def readOpening? (m : Mode) (cs : List Char) : Option (Row × List Char) :=
  let (others, cs) := takeCircumflex m cs
  let (items, cs) := takeFirst m cs
  if others && !m.characters || items.count != 0 && !m.itemFits '-' then none
  else some (items, cs)

/-- Reads a character, or an escape. -/
def readItem? (m : Mode) : List Char → Option (Escape × List Char)
  | [] => none
  | c :: cs => if c = '\\' then Escape.read? m cs else some (.literal c false, cs)

/-- Whether a hyphen before a text is itself, rather than the sign of a range. -/
def hyphenAlone (m : Mode) (cs : List Char) : Bool :=
  m.peek? cs == some ']' || m.peek? cs == some '-'

/-- Reads a single item or a range, whose ends are characters in their order. -/
def readRange? (m : Mode) (cs : List Char) : Option (List Char) :=
  match readItem? m cs with
  | none => none
  | some (first, rest) =>
    match m.skip rest with
    | '-' :: behind =>
      if hyphenAlone m behind then if first.fitsBracket m then some (m.skip rest) else none
      else
        match first, readItem? m (m.skip behind) with
        | .literal a _, some (.literal b _, rest) =>
          if a ≤ b && m.itemFits a && m.itemFits b then some rest else none
        | _, _ => none
    | rest => if first.fitsBracket m then some rest else none

/-- Reads the next thing in brackets. -/
def token? (m : Mode) (cs : List Char) : Option (Token × List Char) :=
  match m.skip cs with
  | ']' :: rest => some (.closing, rest)
  | '&' :: '&' :: rest => some (.operator, rest)
  | '-' :: '-' :: rest => some (.operator, rest)
  | '~' :: '~' :: rest => some (.operator, rest)
  | '[' :: rest =>
    match readKind? rest with
    | some (others, rest) => if kindFits m others then some (.item, rest) else none
    | none => (readOpening? m rest).map fun (items, rest) => (.opening items, rest)
  | cs => (readRange? m cs).map fun rest => (.item, rest)

/-- What has been read of one pair of brackets: the items behind the last operator, and how deep all
that stands before it nests. -/
structure Side where
  before : Option Nat := none
  items : Row := {}
  deriving DecidableEq, Repr

namespace Side

/-- How deep a side nests; an operator is one deeper than its two sides. -/
def depth (s : Side) : Nat :=
  match s.before with
  | none => s.items.depth
  | some before => max before s.items.depth + 1

/-- The side behind an operator. -/
def operate (s : Side) : Side := ⟨some s.depth, {}⟩

/-- The side with one more item. -/
def push (s : Side) (depth : Nat) : Side := { s with items := s.items.push depth }

end Side

theorem readKindName?_length {cs rest : List Char} (h : readKindName? cs = some rest) :
    rest.length < cs.length := by
  have dropped := (List.dropWhile_suffix (l := cs) (· != ':')).length_le
  unfold readKindName? at h
  split at h
  · next eq =>
    simp only [eq, List.length_cons] at dropped
    split at h
    · cases h; omega
    · contradiction
  · contradiction

theorem readKind?_length {cs : List Char} {r : Bool × List Char} (h : readKind? cs = some r) :
    r.2.length < cs.length := by
  unfold readKind? at h
  split at h
  · obtain ⟨rest, found, rfl⟩ := Option.map_eq_some_iff.1 h
    have := readKindName?_length found
    simp only [List.length_cons]
    omega
  · obtain ⟨rest, found, rfl⟩ := Option.map_eq_some_iff.1 h
    have := readKindName?_length found
    simp only [List.length_cons]
    omega
  · contradiction

theorem takeHyphens_length (m : Mode) (items : Row) (cs : List Char) :
    (takeHyphens m items cs).2.length ≤ cs.length := by
  fun_induction takeHyphens m items cs with
  | case1 _ rest ih =>
    have := m.length_skip_le rest
    simp only [List.length_cons]
    omega
  | case2 => simp

theorem takeCircumflex_length (m : Mode) (cs : List Char) :
    (takeCircumflex m cs).2.length ≤ cs.length := by
  have skipped := m.length_skip_le cs
  unfold takeCircumflex
  split
  · next rest eq =>
    have := m.length_skip_le rest
    simp only [eq, List.length_cons] at skipped
    dsimp only
    omega
  · exact skipped

theorem takeFirst_length (m : Mode) (cs : List Char) :
    (takeFirst m cs).2.length ≤ cs.length := by
  have taken := takeHyphens_length m {} cs
  unfold takeFirst
  split
  · next rest eq =>
    have := m.length_skip_le rest
    simp only [eq, List.length_cons] at taken
    dsimp only
    omega
  · exact taken

theorem readOpening?_length {m : Mode} {cs : List Char} {r : Row × List Char}
    (h : readOpening? m cs = some r) : r.2.length ≤ cs.length := by
  have circumflex := takeCircumflex_length m cs
  have first := takeFirst_length m (takeCircumflex m cs).2
  simp only [readOpening?] at h
  split at h
  · contradiction
  · cases h
    exact Nat.le_trans first circumflex

theorem readItem?_length {m : Mode} {cs : List Char} {r : Escape × List Char}
    (h : readItem? m cs = some r) : r.2.length < cs.length := by
  match cs with
  | [] => simp [readItem?] at h
  | c :: cs =>
    simp only [readItem?] at h
    split at h
    · have := Escape.read?_length h
      simp only [List.length_cons]
      omega
    · cases h; simp

theorem readRange?_length {m : Mode} {cs rest : List Char} (h : readRange? m cs = some rest) :
    rest.length < cs.length := by
  unfold readRange? at h
  split at h
  · contradiction
  · next first rest item =>
    have read := readItem?_length item
    have skipped := m.length_skip_le rest
    split at h
    · next behind eq =>
      split at h
      · split at h
        · cases h; dsimp only at *; omega
        · contradiction
      · split at h
        · next second =>
          have reread := readItem?_length second
          have := m.length_skip_le behind
          simp only [eq, List.length_cons] at skipped
          split at h
          · cases h; dsimp only at *; omega
          · contradiction
        · contradiction
    · split at h
      · cases h; dsimp only at *; omega
      · contradiction

/-- Reading a thing in brackets takes something off the text. -/
theorem token?_length {m : Mode} {cs : List Char} {r : Token × List Char}
    (h : token? m cs = some r) : r.2.length < cs.length := by
  have skipped := m.length_skip_le cs
  unfold token? at h
  split at h
  · next eq => cases h; simp only [eq, List.length_cons] at skipped; exact skipped
  · next eq => cases h; simp only [eq, List.length_cons] at skipped; dsimp only; omega
  · next eq => cases h; simp only [eq, List.length_cons] at skipped; dsimp only; omega
  · next eq => cases h; simp only [eq, List.length_cons] at skipped; dsimp only; omega
  · next eq =>
    simp only [eq, List.length_cons] at skipped
    split at h
    · next kind =>
      have := readKind?_length kind
      split at h
      · cases h; dsimp only at *; omega
      · contradiction
    · obtain ⟨opening, found, rfl⟩ := Option.map_eq_some_iff.1 h
      have := readOpening?_length found
      dsimp only
      omega
  · obtain ⟨rest, found, rfl⟩ := Option.map_eq_some_iff.1 h
    exact Nat.lt_of_lt_of_le (readRange?_length found) skipped

/-- Reads on in brackets; `outer` are the brackets around them that are open still. -/
def readOn? (m : Mode) (side : Side) (outer : List Side) (cs : List Char) :
    Option (Nat × List Char) :=
  match _h : token? m cs with
  | none => none
  | some (.item, rest) => readOn? m (side.push 0) outer rest
  | some (.operator, rest) => readOn? m side.operate outer rest
  | some (.opening items, rest) => readOn? m { items } (side :: outer) rest
  | some (.closing, rest) =>
    match outer with
    | [] => some (side.depth + 1, rest)
    | around :: outer => readOn? m (around.push (side.depth + 1)) outer rest
termination_by cs.length
decreasing_by all_goals exact token?_length _h

/-- Reads brackets from behind the opening one, and says how deep they nest. -/
def read? (m : Mode) (cs : List Char) : Option (Nat × List Char) :=
  match readOpening? m cs with
  | some (items, rest) => readOn? m { items } [] rest
  | none => none

theorem readOn?_length {m : Mode} {side : Side} {outer : List Side} {cs : List Char}
    {r : Nat × List Char} (h : readOn? m side outer cs = some r) : r.2.length < cs.length := by
  fun_induction readOn? m side outer cs with
  | case1 => contradiction
  | case2 _ _ _ _ token ih => exact Nat.lt_trans (ih h) (token?_length token)
  | case3 _ _ _ _ token ih => exact Nat.lt_trans (ih h) (token?_length token)
  | case4 _ _ _ _ _ token ih => exact Nat.lt_trans (ih h) (token?_length token)
  | case5 _ _ _ token => cases h; exact token?_length token
  | case6 _ _ _ token _ _ ih => exact Nat.lt_trans (ih h) (token?_length token)

/-- Reading brackets takes something off the text. -/
theorem read?_length {m : Mode} {cs : List Char} {r : Nat × List Char}
    (h : read? m cs = some r) : r.2.length < cs.length := by
  unfold read? at h
  split at h
  · next opening =>
    exact Nat.lt_of_lt_of_le (readOn?_length h) (readOpening?_length opening)
  · contradiction

end Uplink.Pattern.Bracket
