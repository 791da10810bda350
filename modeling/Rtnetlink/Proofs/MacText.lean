import Rtnetlink.Address.Mac
import Rtnetlink.Proofs.Numerals
import Rtnetlink.Proofs.Splitting

/-!
# The texts of MAC addresses

A text is read as a MAC address exactly if it consists of six groups with single colons between
them, each of them a hexadecimal numeral of one or two digits.  The octets of the address are the
values of the groups; so the case of the digits, and a zero in front of a single one, make no
difference.

* `Mac.Spelled`: the groups of a text;
* `Mac.octet?_eq_some_iff`, `Mac.mapM_octet?_eq_some_iff`: one group, and all of them;
* `Mac.IsReadExactly`, `Mac.IsWrittenExactly`, `Mac.groups_are_exact`: which texts are read, as
  what, and what is written.
-/

namespace Rtnetlink.Mac

open Text.Numeral

/-- A group of a text: one or two hexadecimal digits. -/
def IsGroup (group : List Char) : Prop := IsNumeral 16 group ∧ group.length ≤ 2

instance : DecidablePred IsGroup := fun _ => inferInstanceAs (Decidable (_ ∧ _))

/-- The text consists of six groups with single colons between them. -/
structure Spelled (groups : List (List Char)) (text : String) : Prop where
  text : text.toList = List.intercalate [':'] groups
  six : groups.length = 6
  isGroup : ∀ group ∈ groups, IsGroup group

variable {group : List Char} {groups groups' : List (List Char)} {octet : UInt8}
  {octets : List UInt8} {text : String} {m : Mac}

/-- Two digits make an octet. -/
lemma IsGroup.value_lt (h : IsGroup group) : value 16 group < 256 :=
  Nat.lt_of_lt_of_le (value_lt_pow h.1) (Nat.pow_le_pow_right (by decide) h.2)

lemma octet?_eq_some_iff :
    octet? group = some octet ↔ IsGroup group ∧ value 16 group = octet.toNat := by
  rw [octet?, IsGroup]
  by_cases hlong : 2 < group.length
  · simp [hlong, Nat.not_le.2 hlong]
  · rw [if_neg hlong, Option.map_eq_some_iff]
    constructor
    · rintro ⟨n, hread, rfl⟩
      obtain ⟨hnumeral, rfl⟩ := (read?_eq_some_iff (by decide)).1 hread
      have hgroup : IsGroup group := ⟨hnumeral, Nat.not_lt.1 hlong⟩
      exact ⟨hgroup, (UInt8.toNat_ofNat_of_lt' hgroup.value_lt).symm⟩
    · rintro ⟨⟨hnumeral, -⟩, hvalue⟩
      refine ⟨_, (read?_eq_some_iff (by decide)).2 ⟨hnumeral, rfl⟩, ?_⟩
      rw [hvalue, UInt8.ofNat_toNat]

lemma mapM_octet?_eq_some_iff : groups.mapM octet? = some octets ↔
    (∀ group ∈ groups, IsGroup group) ∧ groups.map (value 16) = octets.map UInt8.toNat := by
  induction groups generalizing octets with
  | nil => simp [eq_comm]
  | cons group groups ih =>
    have hcons : (group :: groups).mapM octet? = some octets ↔ ∃ first rest,
        octet? group = some first ∧ groups.mapM octet? = some rest ∧ first :: rest = octets := by
      simp [List.mapM_cons, Option.bind_eq_some_iff]
    rw [hcons, List.forall_mem_cons, List.map_cons]
    constructor
    · rintro ⟨first, rest, hfirst, hrest, rfl⟩
      obtain ⟨hgroup, hvalue⟩ := octet?_eq_some_iff.1 hfirst
      obtain ⟨hgroups, hvalues⟩ := ih.1 hrest
      exact ⟨⟨hgroup, hgroups⟩, by rw [List.map_cons, hvalue, hvalues]⟩
    · rintro ⟨⟨hgroup, hgroups⟩, hvalues⟩
      obtain ⟨first, rest, rfl, hvalue, hvalues⟩ := List.map_eq_cons_iff.1 hvalues.symm
      exact ⟨first, rest, octet?_eq_some_iff.2 ⟨hgroup, hvalue.symm⟩,
        ih.2 ⟨hgroups, hvalues.symm⟩, rfl⟩

/-- No group holds a colon, so the groups are the parts of the text. -/
lemma Spelled.splitOn_eq (h : Spelled groups text) : Text.splitOn ':' text.toList = groups := by
  refine Text.splitOn_eq_iff.2 ⟨?_, h.text, fun group hgroup => ?_⟩
  · rintro rfl
    cases h.six
  · exact (h.isGroup group hgroup).1.not_mem (by decide)

/-- A text is spelled by no other groups. -/
lemma Spelled.unique (h : Spelled groups text) (h' : Spelled groups' text) : groups = groups' :=
  h.splitOn_eq.symm.trans h'.splitOn_eq

/-- What is read are the octets of the parts, if there are six of them. -/
lemma read?_eq_some_iff_octets {text : List Char} :
    read? text = some m ↔ (Text.splitOn ':' text).mapM octet? = some m.octets := by
  rw [read?]
  rcases (Text.splitOn ':' text).mapM octet? with _ | octets
  · simp
  · rcases m with ⟨octets', hsix⟩
    by_cases h : octets.length = 6
    · simp [h]
    · simp only [h, ↓reduceDIte, reduceCtorEq, Option.some.injEq, false_iff]
      rintro rfl
      exact h hsix

lemma read?_eq_some_iff_spelled : read? text.toList = some m ↔
    ∃ groups, Spelled groups text ∧ groups.map (value 16) = m.octets.map UInt8.toNat := by
  rw [read?_eq_some_iff_octets, mapM_octet?_eq_some_iff]
  constructor
  · rintro ⟨hgroup, hvalues⟩
    obtain ⟨-, htext, -⟩ := Text.splitOn_eq_iff.1 (rfl : Text.splitOn ':' text.toList = _)
    have hsix := congrArg List.length hvalues
    rw [List.length_map, List.length_map, m.length_octets] at hsix
    exact ⟨_, ⟨htext, hsix, hgroup⟩, hvalues⟩
  · rintro ⟨groups, hspelled, hvalues⟩
    rw [hspelled.splitOn_eq]
    exact ⟨hspelled.isGroup, hvalues⟩

/-- Six groups stand for an address. -/
lemma Spelled.exists_mac (h : Spelled groups text) :
    ∃ m : Mac, groups.map (value 16) = m.octets.map UInt8.toNat := by
  refine ⟨⟨groups.map fun group => UInt8.ofNat (value 16 group), ?_⟩, ?_⟩
  · rw [List.length_map, h.six]
  · rw [List.map_map]
    exact List.map_congr_left fun group hgroup =>
      (UInt8.toNat_ofNat_of_lt' (h.isGroup group hgroup).value_lt).symm

lemma spelled_toText (m : Mac) : Spelled (m.octets.map hexByte) m.toText where
  text := by rw [toText, String.toList_ofList, toChars]
  six := by rw [List.length_map, m.length_octets]
  isGroup group hgroup := by
    obtain ⟨octet, -, rfl⟩ := List.mem_map.1 hgroup
    exact ⟨(isNumeral_hexByte octet).1, Nat.le_refl 2⟩

lemma map_value_hexByte (octets : List UInt8) :
    (octets.map hexByte).map (value 16) = octets.map UInt8.toNat := by
  have hvalue : value 16 ∘ hexByte = UInt8.toNat := by
    ext octet
    rw [Function.comp_apply, (isNumeral_hexByte octet).2]
  rw [List.map_map, hvalue]

lemma parse_eq_ok_iff : parse text = .ok m ↔
    ∃ groups, Spelled groups text ∧ groups.map (value 16) = m.octets.map UInt8.toNat := by
  rw [← read?_eq_some_iff_spelled, parse]
  rcases read? text.toList with _ | m' <;> simp

lemma parse_eq_error_iff {cause : AddressError} : parse text = .error cause ↔
    cause = .invalidMac text ∧ ∀ groups, ¬ Spelled groups text := by
  rcases hparse : parse text with cause' | m
  · have hcause : cause' = .invalidMac text := by
      rw [parse] at hparse
      rcases hread : read? text.toList with _ | m <;> rw [hread] at hparse <;> cases hparse
      rfl
    have hnone : ∀ groups, ¬ Spelled groups text := by
      intro groups h
      obtain ⟨m, hvalues⟩ := h.exists_mac
      rw [parse_eq_ok_iff.2 ⟨groups, h, hvalues⟩] at hparse
      cases hparse
    rw [hcause, Except.error.injEq]
    exact ⟨fun h => ⟨h.symm, hnone⟩, fun h => h.1.symm⟩
  · obtain ⟨groups, h, -⟩ := parse_eq_ok_iff.1 hparse
    exact ⟨fun h => (by cases h), fun hnone => absurd h (hnone.2 groups)⟩

/-- What is written is read back. -/
lemma parse_toText (m : Mac) : parse m.toText = .ok m :=
  parse_eq_ok_iff.2 ⟨_, spelled_toText m, map_value_hexByte m.octets⟩

/-- Only the values of the groups make a difference. -/
lemma parse_eq_parse_iff {text' : String} (h : Spelled groups text) (h' : Spelled groups' text') :
    parse text = parse text' ↔ groups.map (value 16) = groups'.map (value 16) := by
  obtain ⟨m, hvalues⟩ := h.exists_mac
  rw [parse_eq_ok_iff.2 ⟨groups, h, hvalues⟩, eq_comm, parse_eq_ok_iff]
  constructor
  · rintro ⟨groups'', h'', hvalues'⟩
    rw [hvalues, ← hvalues', h''.unique h']
  · intro hsame
    exact ⟨groups', h', hsame.symm.trans hvalues⟩

/-- How a text is read as an address. -/
structure IsReadExactly (text : String) : Prop where
  /-- It is read exactly if six groups spell it, and then as the values of the groups. -/
  parse_eq_ok_iff : ∀ m, parse text = .ok m ↔
    ∃ groups, Spelled groups text ∧ groups.map (value 16) = m.octets.map UInt8.toNat
  /-- It is refused otherwise, and the error carries it. -/
  parse_eq_error_iff : ∀ cause, parse text = .error cause ↔
    cause = .invalidMac text ∧ ∀ groups, ¬ Spelled groups text
  /-- Writing what was read and reading it again changes nothing. -/
  parse_again : (parse text >>= fun m => parse m.toText) = parse text
  /-- Another text is read as the same address exactly if its groups have the same values. -/
  parse_eq_parse_iff : ∀ {text' : String} {groups groups' : List (List Char)},
    Spelled groups text → Spelled groups' text' →
      (parse text = parse text' ↔ groups.map (value 16) = groups'.map (value 16))

/-- How an address is written as a text. -/
structure IsWrittenExactly (m : Mac) : Prop where
  /-- There are two lower-case digits for each octet. -/
  spelled : ∃ groups, Spelled groups m.toText ∧
    ∀ group ∈ groups, group.length = 2 ∧ ∀ c ∈ group, c ∈ lowerDigits
  /-- The text is read as the address again. -/
  parse_toText : parse m.toText = .ok m

/-- **MAC addresses are read and written exactly**, whatever the text and the address. -/
theorem groups_are_exact (text : String) (m : Mac) : IsReadExactly text ∧ m.IsWrittenExactly where
  left :=
    { parse_eq_ok_iff := fun _ => parse_eq_ok_iff
      parse_eq_error_iff := fun _ => parse_eq_error_iff
      parse_again := by
        rcases parse text with cause | m
        · rfl
        · exact parse_toText m
      parse_eq_parse_iff := parse_eq_parse_iff }
  right :=
    { spelled := by
        refine ⟨_, spelled_toText m, fun group hgroup => ?_⟩
        obtain ⟨octet, -, rfl⟩ := List.mem_map.1 hgroup
        exact ⟨rfl, fun _ => mem_lowerDigits_of_hexByte⟩
      parse_toText := parse_toText m }

/-- Single digits and upper case are read as the two lower-case digits that are written. -/
theorem groups_are_exact_of_mixed_case :
    let groups := [['2'], ['0'], ['0', 'a'], ['F', 'F'], ['1'], ['0', '0']]
    let groups' := [['0', '2'], ['0', '0'], ['A'], ['f', 'F'], ['0', '1'], ['0']]
    Spelled groups "2:0:0a:FF:1:00" ∧ Spelled groups' "02:00:A:fF:01:0" ∧
      parse "2:0:0a:FF:1:00" = parse "02:00:A:fF:01:0" := by
  intro groups groups'
  have h : Spelled groups "2:0:0a:FF:1:00" := ⟨rfl, rfl, by decide +kernel⟩
  have h' : Spelled groups' "02:00:A:fF:01:0" := ⟨rfl, rfl, by decide +kernel⟩
  have hread := (groups_are_exact "2:0:0a:FF:1:00" zero).left
  exact ⟨h, h', (hread.parse_eq_parse_iff h h').2 rfl⟩

end Rtnetlink.Mac
