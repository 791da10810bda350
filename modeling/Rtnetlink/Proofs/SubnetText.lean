import Rtnetlink.Proofs.Intervals
import Rtnetlink.Proofs.QuadText

/-!
# The texts of subnets

A text is read as a subnet exactly if it consists of a dotted quad, a slash and the length of a
prefix.  The length is a decimal numeral of at most 32; like other numbers in texts, it may have
zeros or a plus sign in front.  What a text is refused for is decided from the left: by the first
slash, then by what stands before it, and last by what stands behind it.

* `Subnet.ReadAs`: what a text is read as, or refused for;
* `Subnet.text_is_exact`: that is what reading comes to, and what is written is read back.
-/

namespace Rtnetlink.Subnet

open Text.Numeral

variable {front digits : List Char} {n : Nat} {text : String}
  {outcome : Except AddressError Subnet}

/-- The digits of a prefix length: a decimal numeral of at most 32. -/
def IsLength (digits : List Char) (n : Nat) : Prop :=
  IsNumeral 10 digits ∧ value 10 digits = n ∧ n ≤ 32

/-- The text that is taken for a prefix length: its digits, which may have a plus sign in front. -/
def IsPrefix (text : List Char) (n : Nat) : Prop :=
  IsLength text n ∨ ∃ digits, text = '+' :: digits ∧ IsLength digits n

/-- What a text is read as, or refused for, where `Takes` says what is taken for a prefix length. -/
inductive ReadAs (Takes : List Char → Nat → Prop) (text : String) :
    Except AddressError Subnet → Prop where
  /-- An address, a slash and a prefix length make a subnet. -/
  | subnet {quad digits : List Char} {address : IPv4} {n : Nat}
    (htext : text.toList = quad ++ '/' :: digits) (hquad : IPv4.IsQuad quad address)
    (hlength : Takes digits n) : ReadAs Takes text (.ok (ofAddress address n))
  /-- There is no slash. -/
  | missingPrefix (hslash : '/' ∉ text.toList) : ReadAs Takes text (.error (.missingPrefix text))
  /-- What stands before the first slash is no address. -/
  | invalidAddress {front digits : List Char} (htext : text.toList = front ++ '/' :: digits)
    (hfirst : '/' ∉ front) (hquad : ∀ address, ¬ IPv4.IsQuad front address) :
    ReadAs Takes text (.error (.invalidAddress text))
  /-- What stands behind the address and the slash is no prefix length. -/
  | invalidPrefix {quad digits : List Char} {address : IPv4}
    (htext : text.toList = quad ++ '/' :: digits) (hquad : IPv4.IsQuad quad address)
    (hlength : ∀ n, ¬ Takes digits n) : ReadAs Takes text (.error (.invalidPrefix text))

/-- A text that has a plus sign in front of the digits of its prefix length. -/
def IsSigned (text : String) : Prop :=
  ∃ quad digits address n, text.toList = quad ++ '/' :: '+' :: digits ∧
    IPv4.IsQuad quad address ∧ IsLength digits n

/-- Digits have no plus sign in front. -/
lemma not_isLength_plus : ¬ IsLength ('+' :: digits) n := fun h =>
  absurd List.mem_cons_self (h.1.not_mem (by decide))

lemma read?_eq_some_iff_isLength :
    read? 10 digits = some n ∧ n ≤ 32 ↔ IsLength digits n := by
  rw [read?_eq_some_iff (by decide), and_assoc, IsLength]

lemma readPrefix?_eq_some_iff : readPrefix? digits = some n ↔ IsPrefix digits n := by
  rw [readPrefix?, Option.filter_eq_some_iff, decide_eq_true_iff, IsPrefix]
  by_cases hplus : ∃ rest, digits = '+' :: rest
  · obtain ⟨rest, rfl⟩ := hplus
    simp [readSigned?, read?_eq_some_iff_isLength, not_isLength_plus]
  · have hsigned : readSigned? 10 digits = read? 10 digits := by
      unfold readSigned?
      split
      · exact absurd ⟨_, rfl⟩ hplus
      · rfl
    rw [hsigned, read?_eq_some_iff_isLength]
    simp only [not_exists] at hplus
    simp [hplus]

/-- A text is cut at its first slash. -/
lemma cut_of_not_mem (hfirst : '/' ∉ front) (digits : List Char) :
    (front ++ '/' :: digits).takeWhile (· ≠ '/') = front ∧
      ((front ++ '/' :: digits).dropWhile (· ≠ '/')).drop 1 = digits := by
  have hfront : ∀ c ∈ front, decide (c ≠ '/') = true := fun c hc =>
    decide_eq_true (ne_of_mem_of_not_mem hc hfirst)
  rw [List.takeWhile_append_of_pos hfront, List.dropWhile_append_of_pos hfront]
  simp

/-- Where there is a slash, what stands before the first one is read, and then what stands behind
it. -/
lemma parse_of_slash (htext : text.toList = front ++ '/' :: digits)
    (hfirst : '/' ∉ front) :
    parse text = match IPv4.read? front with
      | none => .error (.invalidAddress text)
      | some address => match readPrefix? digits with
        | none => .error (.invalidPrefix text)
        | some n => .ok (ofAddress address n) := by
  obtain ⟨htake, hdrop⟩ := cut_of_not_mem hfirst digits
  have hslash : '/' ∈ text.toList := by simp [htext]
  rw [← htext] at htake hdrop
  rw [← htake, ← hdrop]
  exact if_pos hslash

/-- Each text is read in some way. -/
lemma exists_readAs (Takes : List Char → Nat → Prop) (text : String) :
    ∃ outcome, ReadAs Takes text outcome := by
  by_cases hslash : '/' ∈ text.toList
  · obtain ⟨front, digits, htext, hfirst⟩ := List.eq_append_cons_of_mem hslash
    by_cases hquad : ∃ address, IPv4.IsQuad front address
    · obtain ⟨address, hquad⟩ := hquad
      by_cases hlength : ∃ n, Takes digits n
      · obtain ⟨n, hlength⟩ := hlength
        exact ⟨_, .subnet htext hquad hlength⟩
      · exact ⟨_, .invalidPrefix htext hquad (not_exists.1 hlength)⟩
    · exact ⟨_, .invalidAddress htext hfirst (not_exists.1 hquad)⟩
  · exact ⟨_, .missingPrefix hslash⟩

lemma parse_of_readAs (h : ReadAs IsPrefix text outcome) : parse text = outcome := by
  cases h with
  | subnet htext hquad hlength =>
    rw [parse_of_slash htext hquad.slash_not_mem, IPv4.read?_eq_some_iff.2 hquad]
    dsimp only
    rw [readPrefix?_eq_some_iff.2 hlength]
  | missingPrefix hslash => rw [parse, if_neg hslash]
  | invalidAddress htext hfirst hquad =>
    rw [parse_of_slash htext hfirst]
    rcases hread : IPv4.read? _ with _ | address
    · rfl
    · exact absurd (IPv4.read?_eq_some_iff.1 hread) (hquad address)
  | invalidPrefix htext hquad hlength =>
    rw [parse_of_slash htext hquad.slash_not_mem, IPv4.read?_eq_some_iff.2 hquad]
    dsimp only
    rcases hread : readPrefix? _ with _ | n
    · rfl
    · exact absurd (readPrefix?_eq_some_iff.1 hread) (hlength n)

lemma parse_eq_iff_readAs : parse text = outcome ↔ ReadAs IsPrefix text outcome := by
  refine ⟨?_, parse_of_readAs⟩
  rintro rfl
  obtain ⟨outcome, h⟩ := exists_readAs IsPrefix text
  rwa [parse_of_readAs h]

/-- Whether the plus sign is allowed matters only for texts that have one. -/
lemma readAs_isLength_iff (h : ReadAs IsPrefix text outcome) :
    ReadAs IsLength text outcome ↔ ¬ IsSigned text := by
  constructor
  · rintro h' ⟨quad, digits, address, n, htext, hquad, hlength⟩
    have hok := parse_of_readAs (.subnet htext hquad (.inr ⟨digits, rfl, hlength⟩))
    rw [parse_of_readAs h] at hok
    generalize ofAddress address n = s at hok
    subst hok
    cases h' with
    | subnet htext' hquad' hlength' =>
      -- there is only one first slash, so the plus sign would be a digit
      have hcut := (cut_of_not_mem hquad.slash_not_mem ('+' :: digits)).2
      rw [← htext, htext', (cut_of_not_mem hquad'.slash_not_mem _).2] at hcut
      exact not_isLength_plus (hcut ▸ hlength')
  · intro hunsigned
    cases h with
    | subnet htext hquad hlength =>
      obtain hlength | ⟨digits, rfl, hlength⟩ := hlength
      · exact .subnet htext hquad hlength
      · exact absurd ⟨_, digits, _, _, htext, hquad, hlength⟩ hunsigned
    | missingPrefix hslash => exact .missingPrefix hslash
    | invalidAddress htext hfirst hquad => exact .invalidAddress htext hfirst hquad
    | invalidPrefix htext hquad hlength =>
      exact .invalidPrefix htext hquad fun n hn => hlength n (.inl hn)

/-- A subnet is the one of its network address and its prefix length. -/
lemma ofAddress_network (s : Subnet) : ofAddress s.network s.prefixLength = s := by
  rcases s with ⟨⟨bits⟩, prefixLength, hle, hhosts⟩
  have hparts := toNat_and_not_add_toNat_and bits (hostBits prefixLength)
  rw [hhosts] at hparts
  have hbits : bits &&& ~~~hostBits prefixLength = bits := UInt32.toNat_inj.1 hparts
  simp only [ofAddress, Nat.min_eq_left hle, hbits]

/-- What is written is read back. -/
lemma parse_toText (s : Subnet) : parse s.toText = .ok s := by
  have htext : s.toText.toList = s.network.toChars ++ '/' :: decimalDigits s.prefixLength := by
    rw [toText, String.toList_ofList, toChars]
  obtain ⟨hnumeral, hvalue⟩ := isNumeral_decimalDigits s.prefixLength
  have hlength : IsPrefix (decimalDigits s.prefixLength) s.prefixLength :=
    .inl ⟨hnumeral, hvalue, s.prefixLength_le⟩
  rw [parse_of_readAs (.subnet htext (IPv4.isQuad_toChars s.network) hlength), ofAddress_network]

/-- **Subnets are read and written exactly.**  What a text is read as, or refused for, is decided by
the address, the slash and the prefix length that it consists of, and an error carries the text.
Where a prefix length has to be digits and nothing else, that is what reading comes to as well,
except for the texts that have a plus sign in front of the digits.  The text that is written for a
subnet is read as that subnet. -/
theorem text_is_exact (text : String) :
    (∀ outcome, parse text = outcome ↔ ReadAs IsPrefix text outcome) ∧
    (ReadAs IsLength text (parse text) ↔ ¬ IsSigned text) ∧
    ∀ s : Subnet, parse s.toText = .ok s :=
  ⟨fun _ => parse_eq_iff_readAs, readAs_isLength_iff (parse_eq_iff_readAs.1 rfl), parse_toText⟩

end Rtnetlink.Subnet
