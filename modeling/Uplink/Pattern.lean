import Uplink.Pattern.Bracket
import Uplink.Text.Alphanumeric

/-!
# Patterns

A pattern describes texts: characters, sets of them, anchors, groups, alternatives and repetitions.
What it describes is of no matter here, only whether a text is a pattern at all.

A pattern stands between braces and holds none itself but as a plain character, so there are no
counted repetitions. Repetitions, groups, brackets, rows of parts and rows of alternatives nest in
one another up to a limit.

## Main definitions

- `Token`, `token?`: what a pattern is made of, one thing after the other.
- `Level`: what has been read of one group.
- `read?`: reads a pattern and says how deep it nests.
- `isAccepted`: whether a text is a pattern.
-/

namespace Uplink.Pattern

/-- The things that a pattern is made of. -/
inductive Token where
  /-- Something that stands for itself, and how deep it nests. -/
  | part (depth : Nat)
  | repetition
  | bar
  /-- The start of a group, which may have a name and settings of its own. -/
  | opening (name : Option (List Char)) (settings : List Setting)
  /-- Settings for all that follows in the same group. -/
  | settings (settings : List Setting)
  | closing
  deriving DecidableEq, Repr

/-- Whether a text can be the name of a group. -/
def isGroupName : List Char → Bool
  | [] => false
  | c :: cs =>
    (c == '_' || Text.isAlphabetic c) &&
      cs.all fun c => c == '_' || c == '.' || c == '[' || c == ']' || Text.isAlphanumeric c

/-- Reads the start of a group from its name on. -/
def readNamed? (cs : List Char) : Option (Token × List Char) :=
  match cs.dropWhile (· != '>') with
  | [] => none
  | _ :: rest =>
    let name := cs.takeWhile (· != '>')
    if isGroupName name then some (.opening (some name) [], rest) else none

/-- Reads the start of a group from its settings on, or settings that stand alone; those must be
some. -/
def readUnnamed? (cs : List Char) : Option (Token × List Char) :=
  match readSettings? [] false false cs with
  | none => none
  | some (settings, .group, rest) => some (.opening none settings, rest)
  | some (settings, .alone, rest) =>
    if settings.isEmpty then none else some (.settings settings, rest)

/-- Reads what follows an opening parenthesis. -/
def readOpening? (m : Mode) (cs : List Char) : Option (Token × List Char) :=
  match m.skip cs with
  | '?' :: 'P' :: '<' :: rest => readNamed? rest
  | '?' :: '<' :: rest => readNamed? rest
  | '?' :: rest => readUnnamed? rest
  | rest => some (.opening none [], rest)

/-- Takes a question mark, which makes a repetition reluctant. -/
def takeReluctance : List Char → List Char
  | '?' :: cs => cs
  | cs => cs

/-- Reads the next thing of a pattern. -/
def token? (m : Mode) : List Char → Option (Token × List Char)
  | [] => none
  | c :: cs =>
    match c with
    | '(' => readOpening? m cs
    | ')' => some (.closing, cs)
    | '|' => some (.bar, cs)
    | '?' | '*' | '+' => some (.repetition, takeReluctance cs)
    | '[' => (Bracket.read? m cs).map fun (depth, rest) => (.part depth, rest)
    | '\x7b' => none
    | '^' | '$' => some (.part 0, cs)
    | '.' => if m.characters then some (.part 0, cs) else none
    | '\\' =>
      match Escape.read? m cs with
      | some (e, rest) => if e.fits m then some (.part 0, rest) else none
      | none => none
    | c => if m.literalFits c false then some (.part 0, cs) else none

/-- A piece of a row in a pattern: settings, which cannot be repeated, or a part. -/
inductive Piece where
  | settings
  | part (depth : Nat)
  deriving DecidableEq, Repr

/-- How deep a piece nests. -/
def Piece.depth : Piece → Nat
  | settings => 0
  | part depth => depth

/-- What has been read of one group. -/
structure Level where
  mode : Mode := {}
  /-- The pieces of the last alternative, the last one first. -/
  pieces : List Piece := []
  /-- The alternatives before it. -/
  alternatives : Row := {}
  deriving DecidableEq, Repr

namespace Level

/-- The alternatives with the last one. -/
def closeAlternative (l : Level) : Row :=
  l.alternatives.push (Row.ofDepths (l.pieces.map Piece.depth)).depth

/-- How deep the level nests. -/
def depth (l : Level) : Nat := l.closeAlternative.depth

/-- The level with one more piece. -/
def push (l : Level) (p : Piece) : Level := { l with pieces := p :: l.pieces }

/-- The level with its last part repeated, if it ends with one. -/
def repeatLast? (l : Level) : Option Level :=
  match l.pieces with
  | .part depth :: pieces => some { l with pieces := .part (depth + 1) :: pieces }
  | _ => none

/-- The level behind a bar. -/
def nextAlternative (l : Level) : Level :=
  { l with pieces := [], alternatives := l.closeAlternative }

/-- The level behind settings. -/
def set (l : Level) (settings : List Setting) : Level :=
  { l.push .settings with mode := l.mode.setAll settings }

end Level

theorem readNamed?_length {cs : List Char} {r : Token × List Char} (h : readNamed? cs = some r) :
    r.2.length < cs.length := by
  have dropped := (List.dropWhile_suffix (l := cs) (· != '>')).length_le
  unfold readNamed? at h
  split at h
  · contradiction
  · next eq =>
    simp only [eq, List.length_cons] at dropped
    dsimp only at h
    split at h
    · cases h; exact dropped
    · contradiction

theorem readUnnamed?_length {cs : List Char} {r : Token × List Char}
    (h : readUnnamed? cs = some r) : r.2.length < cs.length := by
  unfold readUnnamed? at h
  split at h
  · contradiction
  · next read => cases h; exact readSettings?_length read
  · next read =>
    split at h
    · contradiction
    · cases h; exact readSettings?_length read

theorem readOpening?_length {m : Mode} {cs : List Char} {r : Token × List Char}
    (h : readOpening? m cs = some r) : r.2.length ≤ cs.length := by
  have skipped := m.length_skip_le cs
  unfold readOpening? at h
  split at h
  · next eq =>
    have := readNamed?_length h
    simp only [eq, List.length_cons] at skipped
    omega
  · next eq =>
    have := readNamed?_length h
    simp only [eq, List.length_cons] at skipped
    omega
  · next eq =>
    have := readUnnamed?_length h
    simp only [eq, List.length_cons] at skipped
    omega
  · cases h; exact skipped

theorem takeReluctance_length (cs : List Char) : (takeReluctance cs).length ≤ cs.length := by
  unfold takeReluctance
  split <;> simp

/-- Reading a thing of a pattern takes something off the text. -/
theorem token?_length {m : Mode} {cs : List Char} {r : Token × List Char}
    (h : token? m cs = some r) : r.2.length < cs.length := by
  match cs with
  | [] => simp [token?] at h
  | c :: cs =>
    have reluctance := takeReluctance_length cs
    simp only [token?] at h
    split at h
    · have := readOpening?_length h; simp only [List.length_cons]; omega
    · cases h; simp
    · cases h; simp
    · cases h; simp only [List.length_cons]; omega
    · cases h; simp only [List.length_cons]; omega
    · cases h; simp only [List.length_cons]; omega
    · obtain ⟨read, found, rfl⟩ := Option.map_eq_some_iff.1 h
      have := Bracket.read?_length found
      simp only [List.length_cons]
      omega
    · contradiction
    · cases h; simp
    · cases h; simp
    · split at h
      · cases h; simp
      · contradiction
    · split at h
      · next read =>
        have := Escape.read?_length read
        split at h
        · cases h; simp only [List.length_cons] at *; omega
        · contradiction
      · contradiction
    · split at h
      · cases h; simp
      · contradiction

/-- Reads on in a pattern; `outer` are the groups that are open still, and `names` those of the
groups so far, of which no two are alike. -/
def readOn? (level : Level) (outer : List Level) (names : List (List Char)) (cs : List Char) :
    Option Nat :=
  match _eq : level.mode.skip cs with
  | [] => if outer.isEmpty then some level.depth else none
  | c :: rest =>
    match _h : token? level.mode (c :: rest) with
    | none => none
    | some (.part depth, rest) => readOn? (level.push (.part depth)) outer names rest
    | some (.repetition, rest) =>
      match level.repeatLast? with
      | some level => readOn? level outer names rest
      | none => none
    | some (.bar, rest) => readOn? level.nextAlternative outer names rest
    | some (.settings settings, rest) => readOn? (level.set settings) outer names rest
    | some (.opening name settings, rest) =>
      if name.any names.contains then none
      else
        readOn? { mode := level.mode.setAll settings } (level :: outer) (name.toList ++ names) rest
    | some (.closing, rest) =>
      match outer with
      | [] => none
      | around :: outer => readOn? (around.push (.part (level.depth + 1))) outer names rest
termination_by cs.length
decreasing_by
  all_goals
    have shorter := token?_length _h
    rw [← _eq] at shorter
    exact Nat.lt_of_lt_of_le shorter (Mode.length_skip_le _ cs)

/-- Reads a whole text as a pattern, and says how deep it nests. -/
def read? (cs : List Char) : Option Nat := readOn? {} [] [] cs

/-- How deep a pattern may nest. -/
def depthLimit : Nat := 250

/-- Whether a text is a pattern. -/
def isAccepted (cs : List Char) : Bool := (read? cs).any (· ≤ depthLimit)

end Uplink.Pattern
