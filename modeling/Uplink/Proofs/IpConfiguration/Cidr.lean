import Uplink.Proofs.Address.Text
import Uplink.Proofs.IpConfiguration
import Uplink.Proofs.IpConfiguration.Mask

/-!
# Configurations in CIDR notation

A text is cut at its first slash and read from left to right: the address in front, the number
behind, and then what both of them have to be. What is wrong first is what is reported.

## Main definitions

- `IpConfiguration.IsCidrOf`: a text is an address, a slash and the length of a prefix.
- `IpConfiguration.IsCut`: what stands in front of the first slash of a text and behind it.
- `IpConfiguration.Refuses`: what is wrong first with a text.

## Main results

- `IpConfiguration.splitSlash?_eq_some_iff`: a text is split at its first slash.
- `IpConfiguration.ofCidr_eq_ok_iff`: the texts that are accepted, and what they are accepted as.
- `IpConfiguration.refuses_of_ofCidr`: the error of every other text.
- `IpConfiguration.cidr_exact`: acceptance, result and kind of error by the grammar.
-/

namespace Uplink.IpConfiguration

open Text

/-- A text is this address, with blanks around it or not, a slash, and a numeral of this length. The
address is not zero, and the length is one of a prefix. -/
structure IsCidrOf (q : Quad) (n : Nat) (cidr : String) : Prop where
  parts : ∃ before after, cidr.toList = before ++ '/' :: after ∧ '/' ∉ before ∧
    trim before = q.text.toList ∧ IsNumeralOf n after
  used : (Address.ofOctets q).isAny = false
  few : n ≤ 32

variable {cs before after : List Char} {cidr : String} {gateway : Address} {c : IpConfiguration}

/-- A text is split at its first slash. -/
theorem splitSlash?_eq_some_iff :
    splitSlash? cs = some (before, after) ↔ cs = before ++ '/' :: after ∧ '/' ∉ before := by
  unfold splitSlash?
  constructor
  · intro found
    split at found
    · cases found
    next slash rest dropped =>
      cases found
      have here : slash = '/' := by
        have stops := List.head?_dropWhile_not (· ≠ '/') cs
        rw [dropped] at stops
        simpa using stops
      refine ⟨?_, fun mem => by simpa using List.mem_takeWhile_imp mem⟩
      subst here
      rw [← dropped, List.takeWhile_append_dropWhile]
  · rintro ⟨rfl, free⟩
    have front : ∀ c ∈ before, decide (c ≠ '/') = true := by
      intro c mem
      rw [decide_eq_true_iff]
      rintro rfl
      exact free mem
    rw [List.dropWhile_append_of_pos front, List.takeWhile_append_of_pos front]
    simp

/-- The texts that are accepted: the address and the mask are those that are written there. -/
theorem ofCidr_eq_ok_iff :
    ofCidr cidr gateway = .ok c ↔
      ∃ q n mask, IsCidrOf q n cidr ∧ Mask.ofPrefix (.ofNat n) = .ok mask ∧
        c = ⟨.ofOctets q, mask, gateway, []⟩ := by
  constructor
  · intro accepted
    unfold ofCidr at accepted
    split at accepted
    next before after found =>
      obtain ⟨split, free⟩ := splitSlash?_eq_some_iff.mp found
      obtain ⟨address, parsed, accepted⟩ := exists_of_bind_eq_ok accepted
      obtain ⟨q, written, rfl⟩ := Address.parse_eq_ok_iff.mp parsed
      simp only at accepted
      split at accepted
      next n read =>
        obtain ⟨numeral, byte⟩ := readUnsigned_eq_ok_iff.mp read
        obtain ⟨length, same, accepted⟩ := exists_of_bind_eq_ok accepted
        cases same
        obtain ⟨mask, masked, accepted⟩ := exists_of_bind_eq_ok accepted
        obtain ⟨used, rfl⟩ := make_eq_ok accepted
        have few := (Mask.prefixLength?_of_ofPrefix masked).1
        rw [UInt8.toNat_ofNat_of_lt' (Nat.lt_succ_of_le byte)] at few
        rw [String.toList_ofList] at written
        exact ⟨q, n, mask, ⟨⟨before, after, split, free, written, numeral⟩, used, few⟩, masked, rfl⟩
      next => cases accepted
    next => cases accepted
  · rintro ⟨q, n, mask, ⟨⟨before, after, split, free, written, numeral⟩, used, few⟩, masked, rfl⟩
    have parsed : Address.parse (String.ofList before) = .ok (.ofOctets q) :=
      Address.parse_eq_ok_iff.mpr ⟨q, by rw [String.toList_ofList, written], rfl⟩
    have read : readUnsigned 10 255 after = .ok n :=
      readUnsigned_eq_ok_iff.mpr ⟨numeral, few.trans (by decide)⟩
    have counted := (Mask.prefixLength?_of_ofPrefix masked).2.2
    have made : make (.ofOctets q) mask gateway = .ok ⟨.ofOctets q, mask, gateway, []⟩ := by
      simp [make, used, counted]
    simp only [ofCidr, splitSlash?_eq_some_iff.mpr ⟨split, free⟩, parsed, read, bind, Except.bind,
      pure, Except.pure, masked, made]

/-- A text is that of one address and one length only. -/
theorem IsCidrOf.unique {q q' : Quad} {n n' : Nat} (typed : IsCidrOf q n cidr)
    (typed' : IsCidrOf q' n' cidr) : q = q' ∧ n = n' := by
  obtain ⟨before, after, split, free, written, numeral⟩ := typed.parts
  obtain ⟨before', after', split', free', written', numeral'⟩ := typed'.parts
  have parts := (splitSlash?_eq_some_iff.mpr ⟨split, free⟩).symm.trans
    (splitSlash?_eq_some_iff.mpr ⟨split', free'⟩)
  cases parts
  have quads := (Quad.parse?_eq_some_iff.mpr written).symm.trans
    (Quad.parse?_eq_some_iff.mpr written')
  have lengths := (readUnsigned_eq_ok_iff.mpr ⟨numeral, typed.few⟩).symm.trans
    (readUnsigned_eq_ok_iff.mpr ⟨numeral', typed'.few⟩)
  exact ⟨Option.some.inj quads, Except.ok.inj lengths⟩

/-! ## Refused texts -/

/-- What stands in front of the first slash of a text, and what stands behind it. -/
structure IsCut (before after : List Char) (cidr : String) : Prop where
  whole : cidr.toList = before ++ '/' :: after
  free : '/' ∉ before

/-- What is wrong first with a text, from left to right. -/
inductive Refuses (cidr : String) : CodecError → Prop
  | notCidr (none : '/' ∉ cidr.toList) : Refuses cidr (.invalidConfiguration (.notCidr cidr))
  | address {before after : List Char} (cut : IsCut before after cidr)
      (other : ∀ q : Quad, ¬ q.IsDotted (trim before)) :
      Refuses cidr (.invalidAddress (String.ofList before) .address)
  | length {before after : List Char} {q : Quad} {fault : NumeralError}
      (cut : IsCut before after cidr) (dotted : q.IsDotted (trim before))
      (read : readUnsigned 10 255 after = .error fault) :
      Refuses cidr (.invalidConfiguration (.invalidPrefix (String.ofList after) fault))
  | tooLong {before after : List Char} {q : Quad} {length : UInt8} (cut : IsCut before after cidr)
      (dotted : q.IsDotted (trim before)) (numeral : IsNumeralOf length.toNat after)
      (many : 32 < length.toNat) : Refuses cidr (.invalidConfiguration (.prefixTooLong length))
  | anyAddress {before after : List Char} {n : Nat} (cut : IsCut before after cidr)
      (dotted : (⟨0, 0, 0, 0⟩ : Quad).IsDotted (trim before)) (numeral : IsNumeralOf n after)
      (few : n ≤ 32) : Refuses cidr (.invalidConfiguration .anyAddress)

theorem splitSlash?_eq_some_iff_isCut :
    splitSlash? cidr.toList = some (before, after) ↔ IsCut before after cidr :=
  splitSlash?_eq_some_iff.trans ⟨fun cut => ⟨cut.1, cut.2⟩, fun cut => ⟨cut.whole, cut.free⟩⟩

/-- A text with a slash is cut at the first one. -/
theorem exists_isCut (slash : '/' ∈ cidr.toList) : ∃ before after, IsCut before after cidr := by
  obtain ⟨before, after, whole, free⟩ := List.eq_append_cons_of_mem slash
  exact ⟨before, after, whole, free⟩

/-- There is one cut only. -/
theorem IsCut.unique {before' after' : List Char} (cut : IsCut before after cidr)
    (cut' : IsCut before' after' cidr) : before = before' ∧ after = after' := by
  have parts := (splitSlash?_eq_some_iff_isCut.mpr cut).symm.trans
    (splitSlash?_eq_some_iff_isCut.mpr cut')
  cases parts
  exact ⟨rfl, rfl⟩

/-- A made mask is never what is wrong. -/
theorem make_eq_error {q : Quad} {length : UInt8} {mask : Address} {e : CodecError}
    (masked : Mask.ofPrefix length = .ok mask)
    (refused : make (.ofOctets q) mask gateway = .error e) :
    q = ⟨0, 0, 0, 0⟩ ∧ e = .invalidConfiguration .anyAddress := by
  have counted := (Mask.prefixLength?_of_ofPrefix masked).2.2
  unfold make at refused
  split at refused
  next zero =>
    cases refused
    exact ⟨Address.isAny_ofOctets.mp zero, rfl⟩
  next => simp [counted] at refused

/-- A text is refused for what is wrong with it first. -/
theorem refuses_of_ofCidr {e : CodecError} (refused : ofCidr cidr gateway = .error e) :
    Refuses cidr e := by
  unfold ofCidr at refused
  split at refused
  next before after found =>
    have cut := splitSlash?_eq_some_iff_isCut.mp found
    obtain failed | ⟨address, parsed, refused⟩ := of_bind_eq_error refused
    · obtain ⟨other, rfl⟩ := Address.parse_eq_error_iff.mp failed
      rw [String.toList_ofList] at other
      exact .address cut other
    obtain ⟨q, written, rfl⟩ := Address.parse_eq_ok_iff.mp parsed
    rw [String.toList_ofList] at written
    have dotted := Quad.isDotted_iff.mpr written
    simp only at refused
    split at refused
    next n read =>
      obtain ⟨numeral, byte⟩ := readUnsigned_eq_ok_iff.mp read
      have value : (UInt8.ofNat n).toNat = n := UInt8.toNat_ofNat_of_lt' (Nat.lt_succ_of_le byte)
      obtain failed | ⟨length, same, refused⟩ := of_bind_eq_error refused
      · cases failed
      cases same
      obtain failed | ⟨mask, masked, refused⟩ := of_bind_eq_error refused
      · obtain ⟨many, rfl⟩ := Mask.ofPrefix_eq_error_iff.mp failed
        exact .tooLong cut dotted (value.symm ▸ numeral) many
      obtain ⟨rfl, rfl⟩ := make_eq_error masked refused
      have few := (Mask.prefixLength?_of_ofPrefix masked).1
      exact .anyAddress cut dotted numeral (value ▸ few)
    next fault read =>
      cases refused
      exact .length cut dotted read
  next found =>
    cases refused
    refine .notCidr fun slash => ?_
    obtain ⟨before, after, cut⟩ := exists_isCut slash
    exact found before after (splitSlash?_eq_some_iff_isCut.mpr cut)

/-- There is a slash, and no address in front of the first one. -/
def LacksAddress (cidr : String) : Prop :=
  ∃ before after, IsCut before after cidr ∧ ∀ q : Quad, ¬ q.IsDotted (trim before)

/-- The one cut of a text tells whether it lacks an address. -/
theorem IsCut.not_lacksAddress {q : Quad} (cut : IsCut before after cidr)
    (dotted : q.IsDotted (trim before)) : ¬ LacksAddress cidr := by
  rintro ⟨before', after', cut', other⟩
  obtain ⟨rfl, rfl⟩ := cut.unique cut'
  exact other q dotted

/-- The kind of an error tells whether there was an address. -/
theorem Refuses.kind {e : CodecError} (refused : Refuses cidr e) :
    (LacksAddress cidr ∧ ∃ text form, e = .invalidAddress text form) ∨
      (¬ LacksAddress cidr ∧ ∃ fault, e = .invalidConfiguration fault) := by
  cases refused with
  | notCidr none =>
    refine .inr ⟨?_, _, rfl⟩
    rintro ⟨before, after, cut, -⟩
    exact none (by simp [cut.whole])
  | address cut other => exact .inl ⟨⟨_, _, cut, other⟩, _, _, rfl⟩
  | length cut dotted | tooLong cut dotted | anyAddress cut dotted =>
    exact .inr ⟨cut.not_lacksAddress dotted, _, rfl⟩

/-! ## The grammar -/

/-- What a text in CIDR notation consists of. -/
theorem isCidrOf_iff {q : Quad} {n : Nat} :
    IsCidrOf q n cidr ↔ ∃ before after, IsCut before after cidr ∧ q.IsDotted (trim before) ∧
      q ≠ ⟨0, 0, 0, 0⟩ ∧ IsNumeralOf n after ∧ n ≤ 32 := by
  have used : (Address.ofOctets q).isAny = false ↔ q ≠ ⟨0, 0, 0, 0⟩ := by
    rw [← Bool.not_eq_true, Address.isAny_ofOctets]
  constructor
  · rintro ⟨⟨before, after, whole, free, written, numeral⟩, other, few⟩
    exact ⟨before, after, ⟨whole, free⟩, Quad.isDotted_iff.mpr written, used.mp other, numeral, few⟩
  · rintro ⟨before, after, cut, dotted, other, numeral, few⟩
    exact ⟨⟨before, after, cut.whole, cut.free, Quad.isDotted_iff.mp dotted, numeral⟩,
      used.mpr other, few⟩

/-- Which texts are configurations in CIDR notation, and which ones. A text is accepted exactly if
there is a slash in it, what stands in front of the first one is a dotted quad other than zero, with
blanks around it or not, and what stands behind is a numeral of a number up to 32. The configuration
has this address, a mask of so many ones, the gateway, and no name servers. Every other text is
refused: as an invalid address if there is a slash and no dotted quad in front of it, and as an
invalid configuration if not. -/
theorem cidr_exact (cidr : String) (gateway : Address) :
    ((∃ c, ofCidr cidr gateway = .ok c) ↔
      ∃ before after, ∃ (q : Quad) (n : Nat), IsCut before after cidr ∧ q.IsDotted (trim before) ∧
        q ≠ ⟨0, 0, 0, 0⟩ ∧ IsNumeralOf n after ∧ n ≤ 32) ∧
    (∀ c before after (q : Quad) n, ofCidr cidr gateway = .ok c → IsCut before after cidr →
      q.IsDotted (trim before) → IsNumeralOf n after →
      c.address = .ofOctets q ∧ c.prefixLength.toNat = n ∧ c.mask.family = .internet ∧
        Mask.bitList (Mask.bitsOf c.mask) = Mask.ones n ∧ c.gateway = gateway ∧ c.servers = []) ∧
    (∀ e, ofCidr cidr gateway = .error e →
      ((∃ text form, e = .invalidAddress text form) ↔ LacksAddress cidr) ∧
      ((∃ fault, e = .invalidConfiguration fault) ↔ ¬ LacksAddress cidr)) := by
  refine ⟨⟨?_, ?_⟩, fun c before after q n accepted cut dotted numeral => ?_, fun e refused => ?_⟩
  · rintro ⟨c, accepted⟩
    obtain ⟨q, n, -, typed, -⟩ := ofCidr_eq_ok_iff.mp accepted
    obtain ⟨before, after, parts⟩ := isCidrOf_iff.mp typed
    exact ⟨before, after, q, n, parts⟩
  · rintro ⟨before, after, q, n, parts⟩
    obtain ⟨mask, masked⟩ := Mask.exists_ofPrefix parts.2.2.2.2
    have typed : IsCidrOf q n cidr := isCidrOf_iff.mpr ⟨before, after, parts⟩
    exact ⟨_, ofCidr_eq_ok_iff.mpr ⟨q, n, mask, typed, masked, rfl⟩⟩
  · obtain ⟨q', n', mask, typed, masked, rfl⟩ := ofCidr_eq_ok_iff.mp accepted
    obtain ⟨before', after', cut', dotted', -, numeral', few⟩ := isCidrOf_iff.mp typed
    obtain ⟨rfl, rfl⟩ := cut.unique cut'
    obtain rfl := dotted.unique dotted'
    obtain rfl := numeral.unique numeral'
    obtain ⟨-, ours, counted⟩ := Mask.prefixLength?_of_ofPrefix masked
    obtain ⟨-, bits⟩ := Mask.prefixLength?_eq_some_iff.mp counted
    rw [Mask.toNat_ofNat few] at bits
    refine ⟨rfl, ?_, beq_iff_eq.mp ours, bits, rfl, rfl⟩
    rw [prefixLength, counted]
    exact Mask.toNat_ofNat few
  · obtain ⟨lacks, text, form, rfl⟩ | ⟨found, fault, rfl⟩ := (refuses_of_ofCidr refused).kind
    · exact ⟨iff_of_true ⟨text, form, rfl⟩ lacks, iff_of_false nofun (not_not_intro lacks)⟩
    · exact ⟨iff_of_false nofun found, iff_of_true ⟨fault, rfl⟩ found⟩

/-- A text with blanks around its address, a sign and zeros in front of its number; and one with two
things wrong with it. -/
theorem cidr_exact_signed :
    (∃ c, ofCidr "\t10.0.0.15 /+0016" .any = .ok c ∧ c.address = .ofOctets ⟨10, 0, 0, 15⟩ ∧
      c.prefixLength.toNat = 16 ∧ Mask.bitList (Mask.bitsOf c.mask) = Mask.ones 16) ∧
    ofCidr "10.0.0.015/99" .any = .error (.invalidAddress "10.0.0.015" .address) ∧
    LacksAddress "10.0.0.015/99" := by
  have cut : IsCut "\t10.0.0.15 ".toList "+0016".toList "\t10.0.0.15 /+0016" :=
    ⟨by decide, by decide⟩
  have dotted : (⟨10, 0, 0, 15⟩ : Quad).IsDotted (trim "\t10.0.0.15 ".toList) :=
    Quad.isDotted_iff.mpr (by decide)
  have numeral : IsNumeralOf 16 "+0016".toList :=
    ⟨"0016".toList, .inr rfl, by decide, List.all_eq_true.mp rfl, by decide⟩
  have refused : ofCidr "10.0.0.015/99" .any = .error (.invalidAddress "10.0.0.015" .address) :=
    rfl
  obtain ⟨accepted, parts, -⟩ := cidr_exact "\t10.0.0.15 /+0016" .any
  obtain ⟨-, -, kinds⟩ := cidr_exact "10.0.0.015/99" .any
  obtain ⟨c, read⟩ := accepted.mpr ⟨_, _, _, _, cut, dotted, by decide, numeral, by decide⟩
  obtain ⟨address, length, -, bits, -⟩ := parts c _ _ _ _ read cut dotted numeral
  exact ⟨⟨c, read, address, length, bits⟩, refused, (kinds _ refused).1.mp ⟨_, _, rfl⟩⟩

end Uplink.IpConfiguration
