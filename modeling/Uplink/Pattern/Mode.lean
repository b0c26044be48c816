import Uplink.Text.Blank

/-!
# Modes of a pattern

What a part of a pattern means hangs on settings, which the pattern itself can change on its way:
letters behind a question mark turn them on, and those behind a minus sign turn them off.

## Main definitions

- `Flag`, `Setting`: what can be set, and a setting of it.
- `Mode`: the settings on which the form of a pattern depends.
- `Mode.skip`: leaves out what a mode ignores between the parts of a pattern.
- `readSettings?`: a list of settings.
-/

namespace Uplink.Pattern

/-- What a pattern can set. -/
inductive Flag where
  /-- Letters stand for both of their cases. -/
  | caseless
  /-- Anchors also stand at the ends of lines. -/
  | lineAnchors
  /-- The dot also stands for the end of a line. -/
  | wideDot
  /-- Repetitions take as little as they can. -/
  | reluctant
  /-- A pattern speaks of characters; otherwise it speaks of bytes. -/
  | characters
  /-- A carriage return belongs to the end of a line. -/
  | carriageReturns
  /-- Blanks and comments are ignored. -/
  | spaced
  deriving DecidableEq, Repr

/-- The letter of each flag. -/
def Flag.ofLetter? : Char → Option Flag
  | 'i' => some caseless
  | 'm' => some lineAnchors
  | 's' => some wideDot
  | 'U' => some reluctant
  | 'u' => some characters
  | 'R' => some carriageReturns
  | 'x' => some spaced
  | _ => none

/-- A flag that is turned on or off. -/
structure Setting where
  flag : Flag
  on : Bool
  deriving DecidableEq, Repr

/-- The settings on which the form of a pattern depends. -/
structure Mode where
  caseless : Bool := false
  characters : Bool := true
  spaced : Bool := false
  deriving DecidableEq, Repr

namespace Mode

/-- The mode after a setting. -/
def set (m : Mode) (s : Setting) : Mode :=
  match s.flag with
  | .caseless => { m with caseless := s.on }
  | .characters => { m with characters := s.on }
  | .spaced => { m with spaced := s.on }
  | _ => m

/-- The mode after several settings. -/
def setAll (m : Mode) (settings : List Setting) : Mode := settings.foldl set m

/-- Leaves out blanks, and comments from a number sign to the end of the line. -/
def dropIgnored : (inComment : Bool) → List Char → List Char
  | _, [] => []
  | true, c :: cs => dropIgnored (c != '\n') cs
  | false, c :: cs =>
    if Text.isBlank c then dropIgnored false cs
    else if c = '#' then dropIgnored true cs
    else c :: cs

/-- Leaves out what the mode ignores in front of the next part. -/
def skip (m : Mode) (cs : List Char) : List Char := if m.spaced then dropIgnored false cs else cs

/-- The character by which a hyphen is told from the sign of a range: the next one, or where blanks
are ignored the next that is not blank, be it in a comment. -/
def peek? (m : Mode) (cs : List Char) : Option Char :=
  if m.spaced then
    match Text.trimStart cs with
    | '#' :: rest => (Text.trimStart rest).head?
    | rest => rest.head?
  else cs.head?

theorem length_dropIgnored_le (inComment : Bool) (cs : List Char) :
    (dropIgnored inComment cs).length ≤ cs.length := by
  fun_induction dropIgnored inComment cs <;> simp_all <;> omega

theorem length_skip_le (m : Mode) (cs : List Char) : (m.skip cs).length ≤ cs.length := by
  unfold skip
  split
  · exact length_dropIgnored_le false cs
  · exact Nat.le_refl _

end Mode

/-- How a list of settings ends: it stands alone, or a group that it holds for follows. -/
inductive SettingsEnd where
  | alone
  | group
  deriving DecidableEq, Repr

/-- Reads settings on top of those that stand already. A flag comes once, a minus sign comes once,
and behind a minus sign there is a flag. -/
def readSettings? (settings : List Setting) (off hanging : Bool) :
    List Char → Option (List Setting × SettingsEnd × List Char)
  | [] => none
  | c :: cs =>
    if c = ')' then if hanging then none else some (settings, .alone, cs)
    else if c = ':' then if hanging then none else some (settings, .group, cs)
    else if c = '-' then if off then none else readSettings? settings true true cs
    else
      match Flag.ofLetter? c with
      | none => none
      | some flag =>
        if settings.any fun s => s.flag = flag then none
        else readSettings? (settings ++ [⟨flag, !off⟩]) off false cs

/-- Reading settings takes something off the text. -/
theorem readSettings?_length {settings : List Setting} {off hanging : Bool} {cs : List Char}
    {r : List Setting × SettingsEnd × List Char}
    (h : readSettings? settings off hanging cs = some r) : r.2.2.length < cs.length := by
  fun_induction readSettings? settings off hanging cs with
  | case1 => simp at h
  | case2 => simp at h
  | case3 => cases h; simp
  | case4 => simp at h
  | case5 => cases h; simp
  | case6 => simp at h
  | case7 _ _ _ _ _ _ _ ih =>
    have := ih h
    simp only [List.length_cons]
    omega
  | case8 => simp at h
  | case9 => simp at h
  | case10 _ _ _ _ _ _ _ _ _ _ _ ih =>
    have := ih h
    simp only [List.length_cons]
    omega

end Uplink.Pattern
