import Mathlib.Data.List.TakeWhile
import Uplink.Proofs.Text.Numeral
import Uplink.Text.Blank

/-!
# What trimming leaves

A text is trimmed in two passes, from the front and then, read backwards, from the end. What they
leave is pinned down by what it is: there are only blanks around it, and none at its own ends.

## Main definitions

- `IsBare`: a text neither begins nor ends with a blank.

## Main results

- `trim_eq_iff`: trimming takes the blanks at both ends, and nothing else.
- `mem_trim_iff`: whatever is no blank is left.
-/

namespace Uplink.Text

variable {c : Char} {cs core lead trail : List Char}

/-- A text neither begins nor ends with a blank. -/
structure IsBare (cs : List Char) : Prop where
  first : ∀ c ∈ cs.head?, isBlank c = false
  last : ∀ c ∈ cs.getLast?, isBlank c = false

/-- A digit is no blank. -/
theorem isBlank_of_isDigit (digit : isDigit c = true) : isBlank c = false := by
  have visible : ∀ d < 10, isBlank d.digitChar = false := by decide
  obtain ⟨d, small, rfl⟩ := isDigit_iff.mp digit
  exact visible d small

/-- A text without blanks has none at its ends. -/
theorem IsBare.of_forall (none : ∀ c ∈ cs, isBlank c = false) : IsBare cs :=
  ⟨fun c first => none c (List.mem_of_mem_head? first),
    fun c last => none c (List.mem_of_mem_getLast? last)⟩

/-- Nothing is dropped where no blank comes first. -/
theorem dropWhile_isBlank_of_head (first : ∀ c ∈ cs.head?, isBlank c = false) :
    cs.dropWhile isBlank = cs := by
  cases cs with
  | nil => rfl
  | cons c cs => exact trimStart_cons (first c rfl)

/-- Trailing blanks are dropped down to what is no blank. -/
theorem trimEnd_append (last : ∀ c ∈ core.getLast?, isBlank c = false)
    (blank : ∀ c ∈ trail, isBlank c = true) : trimEnd (core ++ trail) = core := by
  rw [trimEnd, List.reverse_append,
    List.dropWhile_append_of_pos fun c mem => blank c (List.mem_reverse.mp mem),
    dropWhile_isBlank_of_head (by rwa [List.head?_reverse]), List.reverse_reverse]

/-- A text has blanks around it exactly if trimming takes them. -/
theorem trim_append (bare : IsBare core) (front : ∀ c ∈ lead, isBlank c = true)
    (back : ∀ c ∈ trail, isBlank c = true) : trim (lead ++ (core ++ trail)) = core := by
  rw [trim, trimStart, List.dropWhile_append_of_pos front]
  cases core with
  | nil =>
    rw [List.nil_append, List.dropWhile_eq_nil_iff.mpr back]
    rfl
  | cons c core =>
    have first : isBlank c = false := bare.first c rfl
    rw [dropWhile_isBlank_of_head (by rintro _ ⟨⟩; exact first), trimEnd_append bare.last back]

/-- Trimming takes the blanks at both ends of a text, and nothing else. -/
theorem trim_eq_iff :
    trim cs = core ↔ IsBare core ∧ ∃ lead trail, cs = lead ++ (core ++ trail) ∧
      (∀ c ∈ lead, isBlank c = true) ∧ ∀ c ∈ trail, isBlank c = true := by
  constructor
  · rintro rfl
    have front : cs.takeWhile isBlank ++ trimStart cs = cs := List.takeWhile_append_dropWhile
    have back : trim cs ++ ((trimStart cs).reverse.takeWhile isBlank).reverse = trimStart cs := by
      rw [trim, trimEnd, ← List.reverse_append, List.takeWhile_append_dropWhile,
        List.reverse_reverse]
    refine ⟨⟨fun c first => ?_, fun c last => ?_⟩, cs.takeWhile isBlank,
      ((trimStart cs).reverse.takeWhile isBlank).reverse, by rw [back, front],
      fun c mem => List.mem_takeWhile_imp mem,
      fun c mem => List.mem_takeWhile_imp (List.mem_reverse.mp mem)⟩
    · have stops := List.head?_dropWhile_not isBlank cs
      have head : (trimStart cs).head? = some c := by
        rw [← back, List.head?_append, Option.mem_def.mp first]
        rfl
      rw [trimStart] at head
      rwa [head] at stops
    · have stops := List.head?_dropWhile_not isBlank (trimStart cs).reverse
      rw [trim, trimEnd, List.getLast?_reverse] at last
      rwa [Option.mem_def.mp last] at stops
  · rintro ⟨bare, lead, trail, rfl, front, back⟩
    exact trim_append bare front back

/-- A text with no blanks at its ends is left as it is. -/
theorem IsBare.trim_eq (bare : IsBare cs) : trim cs = cs :=
  trim_eq_iff.mpr ⟨bare, [], [], by simp, nofun, nofun⟩

/-- Whatever is no blank is left. -/
theorem mem_trim_iff (visible : isBlank c = false) : c ∈ trim cs ↔ c ∈ cs := by
  obtain ⟨-, lead, trail, split, front, back⟩ := trim_eq_iff.mp (rfl : trim cs = trim cs)
  have outside {part : List Char} (blank : ∀ c ∈ part, isBlank c = true) : c ∉ part := fun mem =>
    Bool.noConfusion ((blank c mem).symm.trans visible)
  have members : c ∈ cs ↔ c ∈ lead ∨ c ∈ trim cs ∨ c ∈ trail := by
    rw [← List.mem_append, ← List.mem_append, ← split]
  rw [members, or_iff_right (outside front), or_iff_left (outside back)]

end Uplink.Text
