import Uplink.Proofs.IpConfiguration.Usable

/-!
# What configurations are written as

A configuration is written as words with blanks between them. The first one is the address, a slash
and the length of the prefix, and the last one, if there are name servers, their addresses with
commas between them. No address is written with any of these three characters, whatever its family.
So a text is taken apart in one way only, and with the length of the prefix the mask is known, too.

## Main definitions

- `IpConfiguration.IsSeparator`: what stands between the parts of a configuration.
- `IpConfiguration.cidr`: address and prefix of a configuration in CIDR notation.
- `IpConfiguration.words`: the words of a configuration.

## Main results

- `Address.separator_notMem_text`: no address is written with a separator.
- `IpConfiguration.Made.ofCidr_cidr`: address and prefix are read back.
- `IpConfiguration.Made.text_inj`: different configurations are shown differently.
- `IpConfiguration.text_determines`: a configuration is determined by what it is written as.
-/

namespace Uplink

open Text (hexDigit hexDigits hexWord isDigit isDigit_of_mem_toDigits isDigitsOf_toDigits)

/-- The characters that stand between the parts of a configuration. -/
inductive IpConfiguration.IsSeparator : Char → Prop
  | blank : IsSeparator ' '
  | slash : IsSeparator '/'
  | comma : IsSeparator ','

open IpConfiguration (IsSeparator)

variable {x : Char}

/-! ## Addresses have no separators -/

theorem Text.separator_notMem_hexDigits (separates : IsSeparator x) (width n : Nat) :
    x ∉ hexDigits width n := by
  have apart : ∀ d < 16, x ≠ hexDigit d := by
    cases separates <;> decide
  induction width generalizing n with
  | zero => exact List.not_mem_nil
  | succ width ih =>
    rw [hexDigits, List.mem_append, not_or, List.mem_singleton]
    exact ⟨ih _, apart _ (Nat.mod_lt n (by decide))⟩

theorem Text.separator_notMem_hexWord (separates : IsSeparator x) (w : UInt32) :
    x ∉ (hexWord w).toList := by
  have apart : x ∉ "0x".toList := by
    cases separates <;> decide
  rw [hexWord, String.toList_append, List.mem_append, not_or]
  refine ⟨apart, ?_⟩
  rw [String.toList_ofList]
  exact separator_notMem_hexDigits separates 8 w.toNat

theorem Family.separator_notMem_name (separates : IsSeparator x) (f : Family) :
    x ∉ f.name.toList := by
  cases separates <;> cases f <;> decide

theorem Quad.separator_notMem_text (separates : IsSeparator x) (q : Quad) :
    x ∉ q.text.toList := by
  have apart : ¬ (isDigit x = true ∨ x = '.') := by
    cases separates <;> decide
  exact fun mem => apart (Quad.mem_text mem)

/-- No address is written with a separator. -/
theorem Address.separator_notMem_text (separates : IsSeparator x) (a : Address) :
    x ∉ a.text.toList := by
  by_cases internet : a.family = .internet
  · rw [text_of_internet internet]
    exact a.octets.separator_notMem_text separates
  · rw [toList_text_of_foreign internet, List.mem_append, List.mem_cons, not_or, not_or]
    refine ⟨a.family.separator_notMem_name separates, ?_, Text.separator_notMem_hexWord separates _⟩
    rintro rfl
    cases separates

namespace IpConfiguration

variable {c d : IpConfiguration}

theorem Made.prefixLength? (made : Made c) : Mask.prefixLength? c.mask = some c.prefixLength := by
  obtain ⟨few, bits⟩ := made.length
  rw [Mask.prefixLength?_of_ones few bits, UInt8.ofNat_toNat]

/-- The digits of the length of the prefix. -/
def prefixDigits (c : IpConfiguration) : List Char := Nat.toDigits 10 c.prefixLength.toNat

theorem separator_notMem_prefixDigits (separates : IsSeparator x) (c : IpConfiguration) :
    x ∉ c.prefixDigits := by
  have apart : ¬ isDigit x = true := by
    cases separates <;> decide
  exact fun mem => apart (isDigit_of_mem_toDigits mem)

/-! ## Reading back -/

/-- Address and prefix of a configuration in CIDR notation. -/
def cidr (c : IpConfiguration) : String := s!"{c.address.text}/{c.prefixLength.toNat}"

theorem toList_cidr (c : IpConfiguration) :
    c.cidr.toList = c.address.text.toList ++ '/' :: c.prefixDigits := by
  have shown (s : String) : toString s = s := rfl
  have slash : "/".toList = ['/'] := rfl
  simp [cidr, prefixDigits, shown, slash, Nat.toString_eq_repr]

/-- Address and digits are what is found on both sides of the first slash. -/
theorem isCut_cidr (c : IpConfiguration) : IsCut c.address.text.toList c.prefixDigits c.cidr :=
  ⟨c.toList_cidr, c.address.separator_notMem_text .slash⟩

/-- Address and prefix are read back. -/
theorem Made.ofCidr_cidr (made : Made c) (address : c.address.family = .internet)
    (mask : c.mask.family = .internet) :
    IpConfiguration.ofCidr c.cidr c.gateway = .ok { c with servers := [] } := by
  obtain ⟨few, -⟩ := made.length
  obtain ⟨again, masked⟩ := Mask.exists_ofPrefix few
  rw [UInt8.ofNat_toNat] at masked
  obtain ⟨-, ours, counted⟩ := Mask.prefixLength?_of_ofPrefix masked
  obtain rfl : again = c.mask :=
    Mask.eq_of_prefixLength? (beq_iff_eq.mp ours) mask counted made.prefixLength?
  have octets : Address.ofOctets c.address.octets = c.address := Address.ofOctets_octets address
  have typed : IsCidrOf c.address.octets c.prefixLength.toNat c.cidr := by
    have numeral := isDigitsOf_toDigits c.prefixLength.toNat
    refine ⟨⟨_, _, c.isCut_cidr.whole, c.isCut_cidr.free, ?_, ?_⟩, ?_, few⟩
    · rw [Address.text_of_internet address, Quad.trim_text]
    · exact ⟨c.prefixDigits, .inl rfl, numeral.some, numeral.all, numeral.value⟩
    · rw [octets]
      exact made.address_isAny
  refine ofCidr_eq_ok_iff.mpr ⟨_, _, c.mask, typed, ?_, ?_⟩
  · rw [UInt8.ofNat_toNat, masked]
  · rw [octets]

/-- Address and prefix are told from what they are written as. -/
theorem cidr_inj (same : c.cidr = d.cidr) :
    c.address = d.address ∧ c.prefixLength = d.prefixLength := by
  obtain ⟨addresses, lengths⟩ := c.isCut_cidr.unique (same ▸ d.isCut_cidr)
  refine ⟨Address.text_inj (String.toList_inj.mp addresses), UInt8.toNat_inj.mp ?_⟩
  rw [← Text.decimalValue_toDigits c.prefixLength.toNat,
    ← Text.decimalValue_toDigits d.prefixLength.toNat]
  exact congrArg Text.decimalValue lengths

/-! ## Different configurations are shown differently -/

/-- Parts without a separator are found again between the separators. -/
theorem intercalate_inj {parts others : List (List Char)} (some : parts ≠ [])
    (some' : others ≠ []) (free : ∀ part ∈ parts, x ∉ part) (free' : ∀ part ∈ others, x ∉ part)
    (same : [x].intercalate parts = [x].intercalate others) : parts = others := by
  rw [← List.splitOn_intercalate x free some, same, List.splitOn_intercalate x free' some']

/-- Parts and separators have no characters but their own. -/
theorem notMem_intercalate {y : Char} {parts : List (List Char)} (other : x ≠ y)
    (free : ∀ part ∈ parts, x ∉ part) : x ∉ [y].intercalate parts := by
  induction parts with
  | nil => exact List.not_mem_nil
  | cons part parts ih =>
    obtain ⟨first, rest⟩ := List.forall_mem_cons.mp free
    cases parts with
    | nil => rwa [List.intercalate_singleton]
    | cons next parts =>
      rw [List.intercalate_cons_cons, List.mem_append, List.mem_append, List.mem_singleton, not_or,
        not_or]
      exact ⟨⟨first, other⟩, ih rest⟩

/-- The name servers, each as it is written. -/
def serverTexts (c : IpConfiguration) : List (List Char) :=
  (c.servers.map Address.text).map String.toList

theorem separator_notMem_serverTexts (separates : IsSeparator x) (c : IpConfiguration) :
    ∀ server ∈ c.serverTexts, x ∉ server := by
  simp only [serverTexts, List.forall_mem_map]
  exact fun a _ => a.separator_notMem_text separates

/-- The words of a configuration. -/
def words (c : IpConfiguration) : List (List Char) :=
  [c.cidr.toList, "via".toList, c.gateway.text.toList] ++
    if c.servers = [] then [] else ["dns".toList, [','].intercalate c.serverTexts]

/-- A configuration is written as its words with blanks between them. -/
theorem toList_text (c : IpConfiguration) : c.text.toList = [' '].intercalate c.words := by
  have shown (s : String) : toString s = s := rfl
  have slash : "/".toList = ['/'] := rfl
  have via : " via ".toList = ' ' :: ("via".toList ++ [' ']) := rfl
  have dns : " dns ".toList = ' ' :: ("dns".toList ++ [' ']) := rfl
  have comma : ",".toList = [','] := rfl
  rw [text, words, toList_cidr]
  cases none : c.servers with
  | nil => simp [shown, slash, via, prefixDigits, Nat.toString_eq_repr]
  | cons a servers =>
    simp [shown, slash, via, dns, comma, prefixDigits, Nat.toString_eq_repr, serverTexts, none]

/-- No word has a blank. -/
theorem blank_notMem_words (c : IpConfiguration) : ∀ word ∈ c.words, ' ' ∉ word := by
  have cidr : ' ' ∉ c.cidr.toList := by
    rw [toList_cidr, List.mem_append, List.mem_cons, not_or, not_or]
    exact ⟨c.address.separator_notMem_text .blank, by decide,
      c.separator_notMem_prefixDigits .blank⟩
  have gateway : ' ' ∉ c.gateway.text.toList := c.gateway.separator_notMem_text .blank
  have servers : ' ' ∉ [','].intercalate c.serverTexts :=
    notMem_intercalate (by decide) (c.separator_notMem_serverTexts .blank)
  rw [words]
  split <;> simp [cidr, gateway, servers]

/-- Words are taken apart in one way. -/
theorem words_inj (same : c.words = d.words) :
    c.cidr = d.cidr ∧ c.gateway = d.gateway ∧ c.servers = d.servers := by
  simp only [words, List.cons_append, List.nil_append, List.cons.injEq, true_and] at same
  obtain ⟨cidr, gateway, servers⟩ := same
  refine ⟨String.toList_inj.mp cidr, Address.text_inj (String.toList_inj.mp gateway), ?_⟩
  split at servers
  next none =>
    split at servers
    next none' => rw [none, none']
    next => cases servers
  next some =>
    split at servers
    next => cases servers
    next some' =>
      simp only [List.cons.injEq, true_and, and_true] at servers
      have texts := intercalate_inj (by simpa [serverTexts] using some)
        (by simpa [serverTexts] using some') (c.separator_notMem_serverTexts .comma)
        (d.separator_notMem_serverTexts .comma) servers
      have strings := (List.map_inj_right fun _ _ => String.toList_inj.mp).mp texts
      exact (List.map_inj_right fun _ _ => Address.text_inj).mp strings

/-- Different configurations are shown differently, if their masks are IPv4 addresses. -/
theorem Made.text_inj (made : Made c) (made' : Made d) (ours : c.mask.family = .internet)
    (ours' : d.mask.family = .internet) (same : c.text = d.text) : c = d := by
  have words : c.words = d.words := by
    refine intercalate_inj (by simp [IpConfiguration.words]) (by simp [IpConfiguration.words])
      c.blank_notMem_words d.blank_notMem_words ?_
    rw [← toList_text, ← toList_text, same]
  obtain ⟨cidr, gateway, servers⟩ := words_inj words
  obtain ⟨address, length⟩ := cidr_inj cidr
  have mask : c.mask = d.mask :=
    Mask.eq_of_prefixLength? ours ours' made.prefixLength? (length ▸ made'.prefixLength?)
  cases c
  cases d
  cases address
  cases mask
  cases gateway
  cases servers
  rfl

/-- A configuration is determined by what it is written as. If its address and its mask are IPv4
addresses, it is read back from its address and its prefix in CIDR notation and its name servers.
Two configurations that are shown alike are the same if their masks are IPv4 addresses, whatever
their other addresses are. Of any lists of name servers that are set one after the other, the last
one with at most two is there in the end, or the first servers if there is none, and everything else
is as it was. -/
theorem text_determines :
    (∀ c : IpConfiguration, Made c → c.address.family = .internet → c.mask.family = .internet →
      (ofCidr s!"{c.address.text}/{c.prefixLength.toNat}" c.gateway >>= fun read =>
        read.withServers c.servers) = .ok c) ∧
    (∀ c d : IpConfiguration, Made c → Made d → c.mask.family = .internet →
      d.mask.family = .internet → c.text = d.text → c = d) ∧
    (∀ (c : IpConfiguration) (lists : List (List Address)),
      (lists.foldl replaceServers c).servers =
          ((lists.filter (·.length ≤ 2)).getLast?).getD c.servers ∧
        (lists.foldl replaceServers c).address = c.address ∧
        (lists.foldl replaceServers c).mask = c.mask ∧
        (lists.foldl replaceServers c).gateway = c.gateway) := by
  refine ⟨fun c made address mask => ?_, fun c d => Made.text_inj, fun c lists => ?_⟩
  · obtain ⟨-, -, few⟩ := made_iff.mp made
    have read := made.ofCidr_cidr address mask
    rw [cidr] at read
    rw [read]
    exact withServers_of_few few
  · rw [foldl_replaceServers_eq]
    exact ⟨rfl, rfl, rfl, rfl⟩

/-- A configuration with a foreign gateway is read back, and is shown differently with the IPv4
gateway of the same octets; of three lists of name servers the second one is set, since the third
one is too long. -/
theorem text_determines_foreign_gateway :
    let one : Address := .ofOctets ⟨1, 1, 1, 1⟩
    let c : IpConfiguration := ⟨.ofOctets ⟨10, 20, 0, 15⟩, .ofOctets ⟨255, 255, 240, 0⟩,
      ⟨.internetV6, 0x0100140A⟩, [one, .any]⟩
    c.text = "10.20.0.15/20 via InterNetworkV6:0x0100140a dns 1.1.1.1,0.0.0.0" ∧
      (ofCidr "10.20.0.15/20" c.gateway >>= fun read => read.withServers c.servers) = .ok c ∧
      c.text ≠ text { c with gateway := ⟨.internet, 0x0100140A⟩ } ∧
      ([[one], [], [one, one, one]].foldl replaceServers c).servers = [] := by
  intro one c
  obtain ⟨read, shown, servers⟩ := text_determines
  have contiguous : Mask.IsContiguous c.mask := ⟨20, by decide, by decide⟩
  have made : Made c := made_iff.mpr ⟨by decide, contiguous, by decide⟩
  have made' : Made { c with gateway := ⟨.internet, 0x0100140A⟩ } :=
    made_iff.mpr ⟨by decide, contiguous, by decide⟩
  have cidr : s!"{c.address.text}/{c.prefixLength.toNat}" = "10.20.0.15/20" := by decide
  have back := read c made rfl rfl
  rw [cidr] at back
  refine ⟨by decide, back, fun same => ?_, (servers c _).1⟩
  exact absurd (shown _ _ made made' rfl rfl same) (by decide)

end IpConfiguration

end Uplink
