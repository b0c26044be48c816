import Mathlib.Data.List.TakeWhile
import Uplink.Address.Text
import Uplink.Proofs.Text.Blank
import Uplink.Proofs.Text.Numeral
import Uplink.Proofs.Words

/-!
# How addresses are written

An octet is read by taking all digits there are, and only then is it asked whether they are one. So
what is read in the end is exactly what is written: the reader and the writer of dotted quads are
inverse to each other, and there is one text for each quad. Both are measured against a grammar that
mentions neither.

Foreign addresses are shown, too, but by a colon they are told from everything that is read. Their
family's name stands in front of it and a word of fixed width behind it, so that they are told from
each other.

## Main definitions

- `Quad.IsOctet`, `Quad.IsDotted`: the grammar of dotted quads.

## Main results

- `Quad.readOctet?_eq_some_iff`, `Quad.read?_eq_some_iff`: what is read from the front of a text.
- `Quad.parse?_eq_some_iff`: the whole texts that are quads are those that quads are written as.
- `Quad.isDotted_iff`: these are the texts of the grammar.
- `Address.parse_eq_ok_iff`: the texts of addresses, blanks around them left out.
- `Address.text_inj`: different addresses are shown differently.
- `Address.dotted_quad_exact`: which texts are addresses, and which addresses are read back.
-/

namespace Uplink

open Text

namespace Quad

variable {cs rest : List Char} {q : Quad}

/-- The digits of an octet. -/
def digits (b : UInt8) : List Char := Nat.toDigits 10 b.toNat

/-- A text goes on with something else than a digit, or not at all. -/
def EndsDigits (rest : List Char) : Prop := ∀ c ∈ rest.head?, isDigit c = false

theorem endsDigits_nil : EndsDigits [] := nofun

theorem endsDigits_cons {c : Char} (other : isDigit c = false) (rest : List Char) :
    EndsDigits (c :: rest) := by
  rintro _ ⟨⟩
  exact other

/-! ## Octets -/

/-- One to three digits that stand for an octet, without a superfluous zero. -/
structure IsOctet (b : UInt8) (cs : List Char) : Prop where
  digits : IsDigitsOf b.toNat cs
  short : cs.length ≤ 3
  plain : IsPlain cs

/-- The reader looks at the first two characters for a superfluous zero. -/
theorem isCanonical_iff : isCanonical cs = true ↔ IsPlain cs := by
  unfold isCanonical
  split
  · exact iff_of_false nofun fun plain => List.cons_ne_nil _ _ (plain _ rfl)
  next short =>
    refine iff_of_true rfl fun rest zero => ?_
    cases rest with
    | nil => rfl
    | cons c rest => exact (short c rest zero).elim

/-- An octet is in the grammar as it is written. -/
theorem isOctet_iff {b : UInt8} : IsOctet b cs ↔ cs = digits b := by
  constructor
  · intro octet
    exact octet.digits.isPlain_iff.mp octet.plain
  · rintro rfl
    have bound : b.toNat < 256 := b.toNat_lt
    have short : (digits b).length ≤ 3 :=
      (Nat.length_toDigits_le_iff (by decide) (by decide)).mpr (by omega)
    exact ⟨isDigitsOf_toDigits _, short, isPlain_toDigits _⟩

/-- An octet is read exactly where it is written and no digit follows. -/
theorem readOctet?_eq_some_iff {b : UInt8} :
    readOctet? cs = some (b, rest) ↔ cs = digits b ++ rest ∧ EndsDigits rest := by
  constructor
  · intro read
    simp only [readOctet?, Option.ite_none_right_eq_some, Option.some.injEq, Prod.mk.injEq] at read
    obtain ⟨⟨some, short, canonical, few⟩, rfl, rfl⟩ := read
    have value := UInt8.toNat_ofNat_of_lt' (Nat.lt_succ_of_le few)
    have octet : IsOctet (.ofNat (decimalValue (cs.takeWhile isDigit))) (cs.takeWhile isDigit) :=
      ⟨⟨some, fun c mem => List.mem_takeWhile_imp mem, value.symm⟩, short,
        isCanonical_iff.mp canonical⟩
    refine ⟨by rw [← isOctet_iff.mp octet, List.takeWhile_append_dropWhile], fun c mem => ?_⟩
    have next := List.head?_dropWhile_not isDigit cs
    rwa [Option.mem_def.mp mem] at next
  · rintro ⟨rfl, ends⟩
    obtain ⟨⟨some, all, value⟩, short, plain⟩ := isOctet_iff.mpr (rfl : digits b = digits b)
    obtain ⟨taken, dropped⟩ := span_isDigit all ends
    have few : b.toNat ≤ 255 := Nat.le_of_lt_succ b.toNat_lt
    simp [readOctet?, taken, dropped, some, short, isCanonical_iff.mpr plain, value, few]

/-! ## Quads -/

theorem readChar?_eq_some_iff {c : Char} : readChar? c cs = some rest ↔ cs = c :: rest := by
  cases cs with
  | nil => simp [readChar?]
  | cons x cs =>
    rw [readChar?, Option.ite_none_right_eq_some, Option.some.injEq, List.cons.injEq]

/-- A quad is written as its octets with dots in between. -/
theorem toList_text (q : Quad) :
    q.text.toList =
      digits q.a ++ '.' :: (digits q.b ++ '.' :: (digits q.c ++ '.' :: digits q.d)) := by
  have dot : (toString ".").toList = ['.'] := rfl
  simp [text, digits, Nat.toString_eq_repr, dot]

/-- A quad is read exactly where it is written and no digit follows. -/
theorem read?_eq_some_iff :
    read? cs = some (q, rest) ↔ cs = q.text.toList ++ rest ∧ EndsDigits rest := by
  obtain ⟨a, b, c, d⟩ := q
  simp only [read?, bind, Option.bind_eq_some_iff, Prod.exists, readOctet?_eq_some_iff,
    readChar?_eq_some_iff, toList_text]
  constructor
  · rintro ⟨a', _, ⟨rfl, -⟩, _, rfl, b', _, ⟨rfl, -⟩, _, rfl, c', _, ⟨rfl, -⟩, _, rfl, d', rest',
      ⟨rfl, ends⟩, same⟩
    cases same
    exact ⟨by simp, ends⟩
  · rintro ⟨rfl, ends⟩
    simp only [List.append_assoc, List.cons_append]
    have dot (rest : List Char) : EndsDigits ('.' :: rest) := endsDigits_cons rfl rest
    exact ⟨a, _, ⟨rfl, dot _⟩, _, rfl, b, _, ⟨rfl, dot _⟩, _, rfl, c, _, ⟨rfl, dot _⟩, _, rfl, d,
      rest, ⟨rfl, ends⟩, rfl⟩

/-- The texts that are quads are those that quads are written as. -/
theorem parse?_eq_some_iff : parse? cs = some q ↔ cs = q.text.toList := by
  have read : parse? cs = some q ↔ read? cs = some (q, []) := by
    unfold parse?
    split
    next p found => simp [found]
    next other => simpa using other q
  rw [read, read?_eq_some_iff, List.append_nil, and_iff_left endsDigits_nil]

/-! ## The grammar -/

/-- Four octets with single dots between them, and nothing else. -/
def IsDotted (q : Quad) (cs : List Char) : Prop :=
  ∃ a b c d, IsOctet q.a a ∧ IsOctet q.b b ∧ IsOctet q.c c ∧ IsOctet q.d d ∧
    cs = a ++ '.' :: (b ++ '.' :: (c ++ '.' :: d))

/-- The texts of the grammar are those that quads are written as. -/
theorem isDotted_iff : q.IsDotted cs ↔ cs = q.text.toList := by
  simp only [IsDotted, isOctet_iff, toList_text]
  constructor
  · rintro ⟨_, _, _, _, rfl, rfl, rfl, rfl, whole⟩
    exact whole
  · intro whole
    exact ⟨_, _, _, _, rfl, rfl, rfl, rfl, whole⟩

/-- A text is that of one quad only. -/
theorem IsDotted.unique {q' : Quad} (dotted : q.IsDotted cs) (other : q'.IsDotted cs) : q = q' := by
  have read := parse?_eq_some_iff.mpr (isDotted_iff.mp dotted)
  have again := parse?_eq_some_iff.mpr (isDotted_iff.mp other)
  exact Option.some.inj (read.symm.trans again)

/-- A quad is written with digits and dots. -/
theorem mem_text {c : Char} (mem : c ∈ q.text.toList) : isDigit c = true ∨ c = '.' := by
  simp only [toList_text, List.mem_append, List.mem_cons] at mem
  rcases mem with digit | dot | digit | dot | digit | dot | digit
  · exact .inl (isDigit_of_mem_toDigits digit)
  · exact .inr dot
  · exact .inl (isDigit_of_mem_toDigits digit)
  · exact .inr dot
  · exact .inl (isDigit_of_mem_toDigits digit)
  · exact .inr dot
  · exact .inl (isDigit_of_mem_toDigits digit)

/-- The text of a quad has no colon. -/
theorem colon_notMem_text (q : Quad) : ':' ∉ q.text.toList := fun mem =>
  absurd (mem_text mem) (by decide)

theorem isBlank_of_mem_text {c : Char} (mem : c ∈ q.text.toList) : isBlank c = false := by
  rcases mem_text mem with digit | rfl
  · exact isBlank_of_isDigit digit
  · decide

/-- The text of a quad has no blanks to lose. -/
theorem trim_text (q : Quad) : trim q.text.toList = q.text.toList :=
  IsBare.trim_eq (.of_forall fun _ => isBlank_of_mem_text)

end Quad

namespace Family

/-- The family with a given name, if there is one. -/
def ofName? (name : String) : Option Family := all.find? fun f => f.name == name

/-- Every family is found again by its name. -/
theorem ofName?_name (f : Family) : ofName? f.name = some f := by
  cases f <;> decide

theorem name_inj {f g : Family} (same : f.name = g.name) : f = g := by
  have found := ofName?_name g
  rw [← same, ofName?_name] at found
  exact Option.some.inj found

end Family

namespace Address

/-- An IPv4 address is shown as its octets. -/
@[simp] theorem text_ofOctets (q : Quad) : (ofOctets q).text = q.text := by
  have ours : (ofOctets q).ipv4? = some q := congrArg some (octets_ofOctets q)
  rw [text, ours]

/-- An address is read exactly from the text of a quad, blanks around it left out. -/
theorem parse_eq_ok_iff {s : String} {a : Address} :
    parse s = .ok a ↔ ∃ q : Quad, trim s.toList = q.text.toList ∧ a = ofOctets q := by
  unfold parse
  cases found : Quad.parse? (trim s.toList) with
  | none =>
    have none (q : Quad) : trim s.toList ≠ q.text.toList := fun same => by
      cases found.symm.trans (Quad.parse?_eq_some_iff.mpr same)
    simp [none]
  | some q =>
    have same := Quad.parse?_eq_some_iff.mp found
    constructor
    · rintro ⟨⟩
      exact ⟨q, same, rfl⟩
    · rintro ⟨p, other, rfl⟩
      have again := Quad.parse?_eq_some_iff.mpr other
      cases found.symm.trans again
      rfl

/-- An address is read exactly from its octets in the grammar, blanks around them left out. -/
theorem parse_eq_ok_iff_isDotted {s : String} {a : Address} :
    parse s = .ok a ↔ a.family = .internet ∧ a.octets.IsDotted (trim s.toList) := by
  rw [parse_eq_ok_iff]
  constructor
  · rintro ⟨q, written, rfl⟩
    rw [octets_ofOctets]
    exact ⟨rfl, Quad.isDotted_iff.mpr written⟩
  · rintro ⟨internet, dotted⟩
    exact ⟨a.octets, Quad.isDotted_iff.mp dotted, (ofOctets_octets internet).symm⟩

/-- Everything else is refused, with the whole text. -/
theorem parse_eq_error_iff {s : String} {e : CodecError} :
    parse s = .error e ↔
      (∀ q : Quad, ¬ q.IsDotted (trim s.toList)) ∧ e = .invalidAddress s .address := by
  unfold parse
  cases found : Quad.parse? (trim s.toList) with
  | none =>
    have none (q : Quad) : ¬ q.IsDotted (trim s.toList) := fun dotted => by
      cases found.symm.trans (Quad.parse?_eq_some_iff.mpr (Quad.isDotted_iff.mp dotted))
    simp [none, eq_comm]
  | some q =>
    have dotted := Quad.isDotted_iff.mpr (Quad.parse?_eq_some_iff.mp found)
    exact iff_of_false nofun fun refused => refused.1 q dotted

/-! ## Addresses that are shown -/

variable {a b : Address}

theorem text_of_internet (internet : a.family = .internet) : a.text = a.octets.text := by
  conv_lhs => rw [← ofOctets_octets internet]
  exact text_ofOctets a.octets

/-- A foreign address is shown as its family's name, a colon and a word. -/
theorem toList_text_of_foreign (foreign : a.family ≠ .internet) :
    a.text.toList = a.family.name.toList ++ ':' :: (hexWord a.value).toList := by
  have none : a.ipv4? = none := by simp [ipv4?, isIPv4, foreign]
  have shown (s : String) : toString s = s := rfl
  have colon : ":".toList = [':'] := rfl
  rw [text, none]
  simp [shown, colon]

/-- What an IPv4 address is shown as is read as that address. -/
theorem parse_text (internet : a.family = .internet) : parse a.text = .ok a := by
  rw [parse_eq_ok_iff, text_of_internet internet]
  exact ⟨a.octets, a.octets.trim_text, (ofOctets_octets internet).symm⟩

/-- A colon is left of what a foreign address is shown as, and no quad has one. -/
theorem not_parse_text (foreign : a.family ≠ .internet) : parse a.text ≠ .ok b := by
  intro read
  obtain ⟨q, written, -⟩ := parse_eq_ok_iff.mp read
  have shown : ':' ∈ a.text.toList := by simp [toList_text_of_foreign foreign]
  have left : ':' ∈ trim a.text.toList := (mem_trim_iff (by decide)).mpr shown
  rw [written] at left
  exact q.colon_notMem_text left

/-- Different addresses are shown differently. -/
theorem text_inj (same : a.text = b.text) : a = b := by
  by_cases ours : a.family = .internet
  · have read : parse b.text = .ok a := same ▸ parse_text ours
    have internet : b.family = .internet := by_contra fun foreign => not_parse_text foreign read
    exact Except.ok.inj (read.symm.trans (parse_text internet))
  · have foreign : b.family ≠ .internet := fun internet =>
      not_parse_text ours (same ▸ parse_text internet)
    have split : a.family.name.toList ++ ':' :: (hexWord a.value).toList =
        b.family.name.toList ++ ':' :: (hexWord b.value).toList := by
      rw [← toList_text_of_foreign ours, ← toList_text_of_foreign foreign, same]
    -- Both words have the same width, so both texts are cut at the same place.
    have width (w : UInt32) : (hexWord w).toList.length = 10 := by simp [hexWord]
    obtain ⟨names, words⟩ := List.append_inj' split (by simp [width])
    have family : a.family = b.family := Family.name_inj (String.toList_inj.mp names)
    have value : a.value = b.value :=
      hexWord_inj (String.toList_inj.mp (List.cons.inj words).2)
    cases a
    cases b
    cases family
    cases value
    rfl

/-- Which texts are addresses, and which addresses are read back. A text is read exactly if it is
four octets in the grammar with blanks around them, and it is read as the IPv4 address of these
octets, which is shown without the blanks. What an address is shown as is read exactly if it is an
IPv4 address, and then as that address. No two addresses of any families are shown alike. -/
theorem dotted_quad_exact :
    (∀ s, (∃ a, parse s = .ok a) ↔ ∃ q : Quad, q.IsDotted (trim s.toList)) ∧
    (∀ s a (q : Quad), parse s = .ok a → q.IsDotted (trim s.toList) →
      a.family = .internet ∧ a.octets = q ∧ a.text.toList = trim s.toList) ∧
    (∀ a : Address, (∃ b, parse a.text = .ok b) ↔ a.family = .internet) ∧
    (∀ a b : Address, parse a.text = .ok b → b = a) ∧
    (∀ a b : Address, a.text = b.text → a = b) := by
  refine ⟨fun s => ?_, fun s a q read dotted => ?_, fun a => ?_, fun a b read => ?_,
    fun a b => text_inj⟩
  · constructor
    · rintro ⟨a, read⟩
      exact ⟨a.octets, (parse_eq_ok_iff_isDotted.mp read).2⟩
    · rintro ⟨q, dotted⟩
      exact ⟨ofOctets q, parse_eq_ok_iff.mpr ⟨q, Quad.isDotted_iff.mp dotted, rfl⟩⟩
  · have written := Quad.isDotted_iff.mp dotted
    have same : parse s = .ok (ofOctets q) := parse_eq_ok_iff.mpr ⟨q, written, rfl⟩
    obtain rfl : a = ofOctets q := Except.ok.inj (read.symm.trans same)
    exact ⟨rfl, octets_ofOctets q, by rw [text_ofOctets, written]⟩
  · constructor
    · rintro ⟨b, read⟩
      exact by_contra fun foreign => not_parse_text foreign read
    · intro internet
      exact ⟨a, parse_text internet⟩
  · by_cases internet : a.family = .internet
    · exact Except.ok.inj (read.symm.trans (parse_text internet))
    · exact absurd read (not_parse_text internet)

/-- An address with blanks of several kinds around it, and a foreign one with the same octets. -/
theorem dotted_quad_exact_padded :
    (⟨10, 0, 0, 255⟩ : Quad).IsDotted (trim "\t 10.0.0.255\u3000".toList) ∧
    (∃ a, parse "\t 10.0.0.255\u3000" = .ok a ∧ a.octets = ⟨10, 0, 0, 255⟩ ∧
      a.text = "10.0.0.255") ∧
    text ⟨.internetV6, 0xFF00000A⟩ = "InterNetworkV6:0xff00000a" ∧
    (¬∃ b, parse (text ⟨.internetV6, 0xFF00000A⟩) = .ok b) ∧
    text ⟨.internetV6, 0xFF00000A⟩ ≠ text ⟨.internet, 0xFF00000A⟩ := by
  obtain ⟨accepted, shown, ours, -, apart⟩ := dotted_quad_exact
  have dotted : (⟨10, 0, 0, 255⟩ : Quad).IsDotted (trim "\t 10.0.0.255\u3000".toList) :=
    Quad.isDotted_iff.mpr (by decide)
  obtain ⟨a, read⟩ := (accepted "\t 10.0.0.255\u3000").mpr ⟨_, dotted⟩
  obtain ⟨-, octets, text⟩ := shown _ a _ read dotted
  refine ⟨dotted, ⟨a, read, octets, String.toList_inj.mp text⟩, by decide, ?_, fun same => ?_⟩
  · rw [ours]
    decide
  · exact absurd (apart _ _ same) (by decide)

end Address

end Uplink
