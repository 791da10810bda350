import Rtnetlink.Address.IPv4
import Rtnetlink.Proofs.Numerals
import Rtnetlink.Proofs.Splitting

/-!
# Dotted quads

A text is read as an IPv4 address exactly if it consists of four numbers with single dots between
them, each a decimal numeral of at most 255 without leading zeros.  An address has exactly one such
text.

* `IPv4.ofOctets_eq_iff`: the octets of an address;
* `IPv4.IsQuad`: the texts of an address;
* `IPv4.read?_eq_some_iff`, `IPv4.isQuad_toChars`: what is read and what is written.
-/

namespace Rtnetlink.IPv4

open Text.Numeral

variable {a : IPv4} {part text : List Char} {parts : List (List Char)} {n : Nat}

/-- Four octets make an address exactly if they are its octets. -/
lemma ofOctets_eq_iff {w x y z : Nat} (hw : w ≤ 255) (hx : x ≤ 255) (hy : y ≤ 255) (hz : z ≤ 255) :
    ofOctets w x y z = a ↔ [w, x, y, z] = a.octets.map UInt8.toNat := by
  have hbits := a.bits.toNat_lt
  have hnumber : ofOctets w x y z = a ↔ ((w * 256 + x) * 256 + y) * 256 + z = a.toNat := by
    rcases a with ⟨bits⟩
    rw [ofOctets, ofNat, IPv4.mk.injEq, ← UInt32.toNat_inj, UInt32.toNat_ofNat', Nat.mod_eq_of_lt,
      toNat]
    omega
  rw [hnumber]
  simp only [octets, List.map_cons, List.map_nil, UInt8.toNat_ofNat', Nat.shiftRight_eq_div_pow,
    List.cons.injEq, and_true]
  simp only [toNat] at hbits ⊢
  omega

/-- One number of a dotted quad. -/
structure IsOctet (part : List Char) : Prop where
  isNumeral : IsNumeral 10 part
  value_le : value 10 part ≤ 255
  no_leading_zero : part.head? = some '0' → part = ['0']

/-- The text is the dotted quad of the address. -/
def IsQuad (text : List Char) (a : IPv4) : Prop :=
  ∃ parts, text = List.intercalate ['.'] parts ∧ (∀ part ∈ parts, IsOctet part) ∧
    parts.map (value 10) = a.octets.map UInt8.toNat

/-- A number of at most 255 without leading zeros has no more than three digits. -/
lemma IsOctet.length_le (h : IsOctet part) : part.length ≤ 3 := by
  by_cases hzero : part.head? = some '0'
  · rw [h.no_leading_zero hzero]
    decide
  · by_contra hlong
    have hpow : 10 ^ 3 ≤ 10 ^ (part.length - 1) :=
      Nat.pow_le_pow_right (by decide) (by omega)
    have hvalue := pow_le_value h.isNumeral hzero
    have hle := h.value_le
    omega

lemma octet?_eq_some_iff : octet? part = some n ↔ IsOctet part ∧ value 10 part = n := by
  rw [octet?]
  by_cases hzero : part.head? = some '0' ∧ part ≠ ['0']
  · rw [if_pos (.inr hzero)]
    exact ⟨fun h => (by cases h), fun h => absurd (h.1.no_leading_zero hzero.1) hzero.2⟩
  by_cases hlong : 3 < part.length
  · rw [if_pos (.inl hlong)]
    exact ⟨fun h => (by cases h), fun h => absurd h.1.length_le (Nat.not_le.2 hlong)⟩
  rw [if_neg (by simp [hlong, hzero]), Option.filter_eq_some_iff, read?_eq_some_iff (by decide),
    decide_eq_true_iff]
  constructor
  · rintro ⟨⟨hnumeral, rfl⟩, hle⟩
    refine ⟨⟨hnumeral, hle, fun hhead => ?_⟩, rfl⟩
    by_contra hne
    exact hzero ⟨hhead, hne⟩
  · rintro ⟨h, rfl⟩
    exact ⟨⟨h.isNumeral, rfl⟩, h.value_le⟩

/-- No number holds a dot, so the numbers are the parts of the text. -/
lemma splitOn_of_isOctet (hparts : parts ≠ []) (hoctets : ∀ part ∈ parts, IsOctet part) :
    Text.splitOn '.' (List.intercalate ['.'] parts) = parts :=
  Text.splitOn_eq_iff.2 ⟨hparts, rfl, fun part hpart =>
    (hoctets part hpart).isNumeral.not_mem (by decide)⟩

lemma read?_eq_some_iff : read? text = some a ↔ IsQuad text a := by
  rw [read?]
  constructor
  · intro h
    split at h
    · next p q r s hsplit =>
      simp only [Option.bind_eq_bind, Option.bind_eq_some_iff, Option.pure_def,
        Option.some.injEq, octet?_eq_some_iff] at h
      obtain ⟨_, ⟨hp, rfl⟩, _, ⟨hq, rfl⟩, _, ⟨hr, rfl⟩, _, ⟨hs, rfl⟩, hoctets⟩ := h
      refine ⟨[p, q, r, s], (Text.splitOn_eq_iff.1 hsplit).2.1, by simp [hp, hq, hr, hs], ?_⟩
      exact (ofOctets_eq_iff hp.value_le hq.value_le hr.value_le hs.value_le).1 hoctets
    · cases h
  · rintro ⟨parts, rfl, hoctets, hvalues⟩
    obtain ⟨p, q, r, s, rfl⟩ : ∃ p q r s, parts = [p, q, r, s] := by
      have hlength := congrArg List.length hvalues
      rw [List.length_map] at hlength
      match parts, hlength with
      | [p, q, r, s], _ => exact ⟨p, q, r, s, rfl⟩
    have hsome := fun part hpart => octet?_eq_some_iff.2 ⟨hoctets part hpart, rfl⟩
    have hle := fun part hpart => (hoctets part hpart).value_le
    rw [splitOn_of_isOctet (List.cons_ne_nil _ _) hoctets]
    simp only [List.forall_mem_cons] at hsome hle
    obtain ⟨hp, hq, hr, hs, -⟩ := hle
    have haddress := (ofOctets_eq_iff hp hq hr hs).2 hvalues
    simp [hsome, haddress]

/-- An address is written as its dotted quad. -/
lemma isQuad_toChars (a : IPv4) : IsQuad a.toChars a := by
  refine ⟨a.octets.map fun octet => decimalDigits octet.toNat, rfl, fun part hpart => ?_, ?_⟩
  · obtain ⟨octet, -, rfl⟩ := List.mem_map.1 hpart
    obtain ⟨hnumeral, hvalue⟩ := isNumeral_decimalDigits octet.toNat
    have hle := octet.toNat_lt
    exact ⟨hnumeral, by omega, head?_decimalDigits _⟩
  · rw [List.map_map]
    exact List.map_congr_left fun octet _ => (isNumeral_decimalDigits octet.toNat).2

/-- A dotted quad holds nothing but digits and dots. -/
lemma IsQuad.slash_not_mem (h : IsQuad text a) : '/' ∉ text := by
  obtain ⟨parts, rfl, hoctets, -⟩ := h
  exact Text.not_mem_intercalate (by decide) fun part hpart =>
    (hoctets part hpart).isNumeral.not_mem (by decide)

end Rtnetlink.IPv4
