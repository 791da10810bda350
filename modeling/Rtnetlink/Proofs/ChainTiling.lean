import Rtnetlink.Proofs.Cursor
import Rtnetlink.Proofs.Decoding

/-!
# Chains as tilings

The body of a message, and any value inside it, is decoded as a chain of attributes, whether it is
one or not.  This file says which attributes a byte string holds without a decoder: by the places
where they stand.  An attribute stands at a place if its header is there and its length field covers
that header and no byte that is missing; the next one stands where the length, rounded up to four,
ends.  That may be past the end of the byte string, where the padding of the last one is cut off.

Attributes that were read are written again with their kinds and values.  Only padding can get lost
on the way.

* `AttributeChain.next?_of_standsAt`, `AttributeChain.next?_eq_none_iff`: decoding at a place;
* `AttributeChain.tiled_toList`: the attributes of any byte string tile it;
* `AttributeChain.restores_of_tiled`: what they are written as;
* `AttributeChain.reads_tile_and_restore`: both, for the calls to the decoder.
-/

namespace Rtnetlink

open LittleEndian

namespace Attribute

/-- The attribute that stands at a place of a byte string: its length and its kind are the numbers
found there, its length covers the header and ends inside the byte string, and its value is what
lies between the two. -/
structure StandsAt (bytes : List UInt8) (place : Nat) (a : Attribute) : Prop where
  offset : a.offset = place
  length : a.length = (toU16 (bytes.drop place)).toNat
  kind : a.kind = toU16 (bytes.drop (place + 2))
  covers : 4 ≤ a.length
  inside : place + a.length ≤ bytes.length
  value : a.value = (bytes.take (place + a.length)).drop (place + 4)

/-- A place in the header or in the value of the attribute. -/
def Holds (a : Attribute) (place : Nat) : Prop := a.offset ≤ place ∧ place < a.offset + a.length

/-- A place in the padding behind the attribute. -/
def Pads (a : Attribute) (place : Nat) : Prop :=
  a.offset + a.length ≤ place ∧ place < a.offset + align a.length

end Attribute

namespace AttributeChain

/-- No attribute stands at a place: fewer bytes than a header are left, if the place is not past the
end altogether, or the length field is below the size of a header or above what is left. -/
def EndsAt (bytes : List UInt8) (place : Nat) : Prop :=
  bytes.length < place + 4 ∨ (toU16 (bytes.drop place)).toNat < 4 ∨
    bytes.length < place + (toU16 (bytes.drop place)).toNat

/-- The attributes stand side by side from a place on, up to the first place where none stands. -/
inductive Tiled (bytes : List UInt8) : (place : Nat) → (attributes : List Attribute) → Prop
  /-- No attribute stands here. -/
  | ends {place : Nat} (hends : EndsAt bytes place) : Tiled bytes place []
  /-- One stands here, and the others follow where it ends. -/
  | stands {place : Nat} {a : Attribute} {attributes : List Attribute}
      (hstands : a.StandsAt bytes place)
      (hrest : Tiled bytes (place + align a.length) attributes) :
      Tiled bytes place (a :: attributes)

/-- From a place on, `restored` has the attributes of a byte string and nothing else: their headers
and values as they are there, and zeros for their padding.  It ends where no further attribute
stands, and what the byte string has no place for is padding of the last one. -/
structure Restores (bytes : List UInt8) (place : Nat) (attributes : List Attribute)
    (restored : List UInt8) : Prop where
  same : ∀ a ∈ attributes, ∀ i, a.Holds i → restored[i]? = bytes[i]?
  padded : ∀ a ∈ attributes, ∀ i, a.Pads i → restored[i]? = some 0
  covered : ∀ i, place ≤ i → i < restored.length → ∃ a ∈ attributes, a.Holds i ∨ a.Pads i
  ends : EndsAt bytes restored.length
  missing : ∀ i, place ≤ i → i < restored.length → bytes.length ≤ i →
    ∃ a, attributes.getLast? = some a ∧ a.Pads i

/-- The first attribute of a kind in a row, if there is any. -/
def IsFirst (kind : UInt16) (attributes : List Attribute) : Option Attribute → Prop
  | none => ∀ a ∈ attributes, a.kind ≠ kind
  | some a => a.kind = kind ∧
    ∃ front back, attributes = front ++ a :: back ∧ ∀ b ∈ front, b.kind ≠ kind

end AttributeChain

/-! ## Decoding at a place -/

namespace AttributeChain

variable {bytes : List UInt8} {place : Nat} {a : Attribute} {attributes : List Attribute}

lemma next?_of_standsAt (h : a.StandsAt bytes place) :
    next? { bytes, offset := place }
      = some (a, { bytes, offset := place + align a.length }) := by
  have hlength := h.length
  have hcovers := h.covers
  have hinside := h.inside
  have hheader : AttributeHeader.decode (bytes.drop place)
      = .ok { length := toU16 (bytes.drop place), kind := a.kind } := by
    rw [AttributeHeader.decode, if_neg (by simp [AttributeHeader.size]; omega), List.drop_drop,
      h.kind]
  have hfits : ¬ ((toU16 (bytes.drop place)).toNat < AttributeHeader.size ∨
      (bytes.drop place).length < (toU16 (bytes.drop place)).toNat) := by
    simp [AttributeHeader.size]
    omega
  have hvalue : ((bytes.drop place).take (toU16 (bytes.drop place)).toNat).drop AttributeHeader.size
      = a.value := by
    rw [h.value, ← hlength, List.take_drop, List.drop_drop]
    rfl
  obtain rfl := h.offset
  simp only [next?, remaining, hheader, if_neg hfits, hvalue, hlength]

lemma exists_standsAt (h : ¬ EndsAt bytes place) : ∃ a : Attribute, a.StandsAt bytes place := by
  simp only [EndsAt, not_or, Nat.not_lt] at h
  obtain ⟨hroom, hcovers, hinside⟩ := h
  let length := (toU16 (bytes.drop place)).toNat
  let a : Attribute := {
    offset := place
    kind := toU16 (bytes.drop (place + 2))
    value := (bytes.take (place + length)).drop (place + 4) }
  have hlength : a.length = length := by
    simp [a, Attribute.length, AttributeHeader.size]
    omega
  exact ⟨a, rfl, hlength, rfl, hlength ▸ hcovers, hlength ▸ hinside, by rw [hlength]⟩

lemma next?_eq_none_iff : next? { bytes, offset := place } = none ↔ EndsAt bytes place := by
  constructor
  · intro hnone
    by_contra hends
    obtain ⟨a, hstands⟩ := exists_standsAt hends
    rw [next?_of_standsAt hstands] at hnone
    cases hnone
  · intro hends
    by_cases hroom : (bytes.drop place).length < AttributeHeader.size
    · have hheader : AttributeHeader.decode (bytes.drop place) = .error _ := if_pos hroom
      simp only [next?, remaining, hheader]
    · have hheader : AttributeHeader.decode (bytes.drop place) = .ok _ := if_neg hroom
      have hunfit : (toU16 (bytes.drop place)).toNat < AttributeHeader.size ∨
          (bytes.drop place).length < (toU16 (bytes.drop place)).toNat := by
        simp only [EndsAt, List.length_drop, AttributeHeader.size] at *
        omega
      simp only [next?, remaining, hheader]
      exact if_pos hunfit

/-! ## The attributes of a byte string tile it -/

lemma toList_of_tiled (h : Tiled bytes place attributes) :
    toList { bytes, offset := place } = attributes := by
  induction h with
  | ends hends => exact toList_eq_nil (next?_eq_none_iff.2 hends)
  | stands hstands _ ih => rw [toList_eq_cons (next?_of_standsAt hstands), ih]

/-- The attributes that are read tile the byte string, whatever it holds. -/
lemma tiled_toList (bytes : List UInt8) (place : Nat) :
    Tiled bytes place (toList { bytes, offset := place }) := by
  -- the measure is what is left behind the place: an attribute takes at least its header away
  induction hleft : bytes.length - place using Nat.strongRecOn generalizing place with
  | ind left ih =>
    by_cases hends : EndsAt bytes place
    · rw [toList_eq_nil (next?_eq_none_iff.2 hends)]
      exact .ends hends
    · obtain ⟨a, hstands⟩ := exists_standsAt hends
      have haligned := le_align a.length
      have hcovers := hstands.covers
      have hinside := hstands.inside
      rw [toList_eq_cons (next?_of_standsAt hstands)]
      exact .stands hstands (ih _ (by omega) _ rfl)

lemma tiled_iff :
    Tiled bytes place attributes ↔ attributes = toList { bytes, offset := place } := by
  constructor
  · intro h
    exact (toList_of_tiled h).symm
  · rintro rfl
    exact tiled_toList bytes place

/-- In a chain that starts at a multiple of four, every attribute does. -/
lemma four_dvd_offset (h : Tiled bytes place attributes) (hplace : 4 ∣ place) :
    ∀ a ∈ attributes, 4 ∣ a.offset := by
  induction h with
  | ends => simp
  | @stands place b attributes hstands _ ih =>
    intro a ha
    rcases List.mem_cons.1 ha with rfl | ha
    · rwa [hstands.offset]
    · exact ih ((Nat.dvd_add_right hplace).2 (four_dvd_align _)) a ha

/-! ## Writing them again -/

end AttributeChain

/-- A word that was read is written as it was. -/
lemma LittleEndian.ofU16_toU16 {bytes : List UInt8} (h : 2 ≤ bytes.length) :
    ofU16 (toU16 bytes) = bytes.take 2 := by
  have hlength : (bytes.take 2).length = 2 := by simp [h]
  have hencode := encode_value (bytes.take 2)
  have hvalue := value_encode 2 (value (bytes.take 2))
  rw [hlength] at hencode
  rw [hencode] at hvalue
  have hsmall : value (bytes.take 2) < 65536 := hvalue ▸ Nat.mod_lt _ (by decide)
  rw [ofU16, toU16, UInt16.toNat_ofNat_of_lt' hsmall, hencode]

namespace Attribute

variable {bytes : List UInt8} {place : Nat} {a : Attribute}

lemma length_encode_entry (a : Attribute) : (encode a.kind a.value).length = align a.length := by
  rw [length_encode, length, AttributeHeader.size, align_add_of_dvd (Nat.dvd_refl 4)]

/-- Written again, the header and the value are those that were found. -/
lemma StandsAt.take_encode (h : a.StandsAt bytes place) :
    (encode a.kind a.value).take a.length = (bytes.drop place).take a.length := by
  have hcovers := h.covers
  have hinside := h.inside
  have hheader : AttributeHeader.encode { length := UInt16.ofNat a.length, kind := a.kind }
      = ((bytes.drop place).take a.length).take 4 := by
    rw [AttributeHeader.encode, h.length, UInt16.ofNat_toNat, h.kind, ← List.drop_drop,
      ofU16_toU16 (by simp; omega), ofU16_toU16 (by simp; omega), List.take_take, ← h.length,
      Nat.min_eq_left hcovers]
    exact (List.take_add (i := 2) (j := 2)).symm
  have hvalue : a.value = ((bytes.drop place).take a.length).drop 4 := by
    rw [h.value, List.take_drop, List.drop_drop]
  calc (encode a.kind a.value).take a.length
    _ = AttributeHeader.encode { length := UInt16.ofNat a.length, kind := a.kind } ++ a.value :=
      List.take_left' (by simp [Attribute.length])
    _ = (bytes.drop place).take a.length := by
      rw [hheader, hvalue, List.take_append_drop]

/-- So is every byte of them. -/
lemma StandsAt.getElem?_encode (h : a.StandsAt bytes place) {i : Nat} (hi : i < a.length) :
    (encode a.kind a.value)[i]? = bytes[place + i]? := by
  have htake := congrArg (·[i]?) h.take_encode
  simpa [List.getElem?_take, hi] using htake

/-- What is written behind them is zero. -/
lemma getElem?_encode_of_le {i : Nat} (hlow : a.length ≤ i) (hhigh : i < align a.length) :
    (encode a.kind a.value)[i]? = some 0 := by
  rw [← length_encode_entry, length_encode] at hhigh
  simp only [length, AttributeHeader.size] at hlow
  rw [encode, List.getElem?_append_right (by simpa [AttributeHeader.size] using hlow),
    List.getElem?_replicate, if_pos]
  simp [AttributeHeader.size]
  omega

end Attribute

namespace AttributeChain

variable {bytes front later : List UInt8} {place : Nat} {a : Attribute}
  {attributes : List Attribute}

lemma restores_nil (hfront : front.length = place) (hends : EndsAt bytes place) :
    Restores bytes place [] front where
  same := by simp
  padded := by simp
  covered i hlow hhigh := by omega
  ends := hfront ▸ hends
  missing i hlow hhigh := by omega

/-- One attribute in front of the others.  If it is the last one, its padding may be missing. -/
lemma Restores.cons (hfront : front.length = place) (hstands : a.StandsAt bytes place)
    (hrest : Restores bytes (place + align a.length) attributes
      (front ++ Attribute.encode a.kind a.value ++ later))
    (hlast : bytes.length < place + align a.length → attributes = []) :
    Restores bytes place (a :: attributes)
      (front ++ Attribute.encode a.kind a.value ++ later) := by
  have hoffset := hstands.offset
  have hinside := hstands.inside
  have haligned := le_align a.length
  have hlength := a.length_encode_entry
  have hown : ∀ i, i < align a.length →
      (front ++ Attribute.encode a.kind a.value ++ later)[place + i]?
        = (Attribute.encode a.kind a.value)[i]? := by
    intro i hi
    rw [List.append_assoc, List.getElem?_append_right (by omega), hfront, Nat.add_sub_cancel_left,
      List.getElem?_append_left (by omega)]
  constructor
  case same =>
    intro b hb i hi
    rcases List.mem_cons.1 hb with rfl | hb
    · obtain ⟨j, rfl⟩ := Nat.exists_eq_add_of_le (hoffset ▸ hi.1)
      have hj : j < b.length := by
        have := hi.2
        omega
      rw [hown j (by omega), hstands.getElem?_encode hj]
    · exact hrest.same b hb i hi
  case padded =>
    intro b hb i hi
    rcases List.mem_cons.1 hb with rfl | hb
    · have hlow := hi.1
      have hhigh := hi.2
      obtain ⟨j, rfl⟩ := Nat.exists_eq_add_of_le (by omega : place ≤ i)
      rw [hown j (by omega), Attribute.getElem?_encode_of_le (by omega) (by omega)]
    · exact hrest.padded b hb i hi
  case covered =>
    intro i hlow hhigh
    by_cases hlater : place + align a.length ≤ i
    · obtain ⟨b, hb, hi⟩ := hrest.covered i hlater hhigh
      exact ⟨b, List.mem_cons_of_mem _ hb, hi⟩
    · refine ⟨a, List.mem_cons_self, ?_⟩
      simp only [Attribute.Holds, Attribute.Pads, hoffset]
      omega
  case ends => exact hrest.ends
  case missing =>
    intro i hlow hhigh hmissing
    by_cases hlater : place + align a.length ≤ i
    · obtain ⟨b, hb, hi⟩ := hrest.missing i hlater hhigh hmissing
      refine ⟨b, ?_, hi⟩
      rw [List.getLast?_cons, hb]
      rfl
    · rw [hlast (by omega)]
      exact ⟨a, rfl, by omega, by omega⟩

/-- Attributes that tile a byte string restore it when they are written again. -/
lemma restores_of_tiled (h : Tiled bytes place attributes) (hfront : front.length = place) :
    Restores bytes place attributes
      (front ++ Attribute.encodeAll (attributes.map Attribute.entry)) := by
  induction h generalizing front with
  | ends hends =>
    rw [List.map_nil, Attribute.encodeAll, List.flatMap_nil, List.append_nil]
    exact restores_nil hfront hends
  | @stands place a attributes hstands hrest ih =>
    rw [List.map_cons, Attribute.encodeAll, List.flatMap_cons, ← List.append_assoc]
    refine Restores.cons hfront hstands (ih ?_) fun hshort => ?_
    · rw [List.length_append, hfront]
      exact congrArg _ a.length_encode_entry
    · -- behind the end of the byte string no attribute stands
      cases hrest with
      | ends => rfl
      | stands hnext =>
        have hcovers := hnext.covers
        have hinside := hnext.inside
        omega

/-! ## The calls to the decoder -/

/-- The attributes are what the calls yield. -/
lemma yields : Cursor.Yields next toList where
  item {c rest a} h := by
    rcases hnext : c.next? with _ | ⟨found, after⟩ <;> simp only [next, hnext, Prod.mk.injEq] at h
    · cases h.1
    · obtain ⟨⟨⟩, rfl⟩ := h
      exact toList_eq_cons hnext
  none {c rest} h := by
    rcases hnext : c.next? with _ | ⟨found, after⟩ <;> simp only [next, hnext, Prod.mk.injEq] at h
    · obtain ⟨-, rfl⟩ := h
      exact ⟨toList_eq_nil hnext, toList_eq_nil hnext⟩
    · cases h.1

lemma isFirst_get? (c : AttributeChain) (kind : UInt16) :
    IsFirst kind c.toList (c.get? kind) := by
  rcases hget : c.get? kind with _ | a <;> rw [get?] at hget
  · simpa [IsFirst] using hget
  · simpa [IsFirst, List.find?_eq_some_iff_append] using hget

/-- **Decoding attributes is sound and complete.**  Exactly one row of attributes tiles a byte
string; all of them stand at multiples of four.  The calls to the decoder bring that row and then
nothing, however many are made, and a search for a kind brings the first one of the row.  Written
again, the attributes restore the byte string up to their padding. -/
theorem reads_tile_and_restore (bytes : List UInt8) :
    ∃ attributes, (∀ row, Tiled bytes 0 row ↔ row = attributes) ∧
      (∀ a ∈ attributes, 4 ∣ a.offset) ∧
      (∀ calls, (Cursor.after next calls { bytes }).next.1 = attributes[calls]?) ∧
      (∀ kind, IsFirst kind attributes (get? { bytes } kind)) ∧
      Restores bytes 0 attributes (Attribute.encodeAll (attributes.map Attribute.entry)) := by
  have htiled := tiled_toList bytes 0
  refine ⟨toList { bytes }, fun row => tiled_iff, four_dvd_offset htiled (Nat.dvd_zero 4),
    fun calls => yields.call_eq calls { bytes }, isFirst_get? { bytes }, ?_⟩
  have hfront : ([] : List UInt8).length = 0 := rfl
  exact restores_of_tiled htiled hfront

end AttributeChain

end Rtnetlink
