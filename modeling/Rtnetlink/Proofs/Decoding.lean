import Rtnetlink.Proofs.AttributeForest

/-!
# What a request decodes to

A request is composed as a layout, a row of cells, and is decoded as bytes.  This file goes from one
to the other: what bytes a layout can come to, by the layouts of its parts, and what attributes are
read from bytes that encode them one behind the other.

* `Settles`: bytes that a layout may come to, by the layouts of its parts;
* `AttributeChain.toList_of_encodeAll`: encoded attributes read back as they were written.
-/

namespace Rtnetlink

open LittleEndian

/-! ## What a layout comes to -/

/-- The bytes are what the cells come to over some old bytes. -/
def Settles (cells : List Cell) (bytes : List UInt8) : Prop :=
  ∃ old : List UInt8, old.length = cells.length ∧ settle cells old = bytes

namespace Settles

variable {cells cells' : List Cell} {bytes bytes' : List UInt8}

lemma length_eq (h : Settles cells bytes) : bytes.length = cells.length := by
  obtain ⟨old, hold, rfl⟩ := h
  exact length_settle hold

/-- Where every cell is written there is only one way. -/
lemma eq_of_written (h : Settles (written bytes) bytes') : bytes' = bytes := by
  obtain ⟨old, hold, rfl⟩ := h
  rw [length_written] at hold
  exact settle_written (Nat.le_of_eq hold.symm)

/-- One layout behind another comes to the one's bytes behind the other's. -/
lemma append (h : Settles (cells ++ cells') bytes) :
    ∃ front back, bytes = front ++ back ∧ Settles cells front ∧ Settles cells' back := by
  obtain ⟨old, hold, rfl⟩ := h
  rw [List.length_append] at hold
  have hfront : (old.take cells.length).length = cells.length := by
    rw [List.length_take]
    omega
  have hback : (old.drop cells.length).length = cells'.length := by
    rw [List.length_drop]
    omega
  refine ⟨_, _, ?_, ⟨_, hfront, rfl⟩, ⟨_, hback, rfl⟩⟩
  rw [← settle_append hfront, List.take_append_drop]

/-- Only the value of an attribute may come to different bytes. -/
lemma ofAttribute {kind : UInt16} (h : Settles (Draft.attributeCells kind cells) bytes) :
    ∃ value, bytes = Attribute.encode kind value ∧ Settles cells value := by
  obtain ⟨front, padding, rfl, hfront, hpadding⟩ := append h
  obtain ⟨header, value, rfl, hheader, hvalue⟩ := append hfront
  refine ⟨value, ?_, hvalue⟩
  rw [hheader.eq_of_written, hpadding.eq_of_written, Attribute.encode, hvalue.length_eq]

/-- An attribute whose value is written comes to its encoding. -/
lemma ofAttribute_written {kind : UInt16} {value : List UInt8}
    (h : Settles (Draft.attributeCells kind (written value)) bytes) :
    bytes = Attribute.encode kind value := by
  rw [← Attribute.written_encode] at h
  exact h.eq_of_written

end Settles

/-! ## Reading attributes -/

/-- Encoded attributes one behind the other, each given by its kind and its value. -/
def Attribute.encodeAll (entries : List (UInt16 × List UInt8)) : List UInt8 :=
  entries.flatMap fun entry => encode entry.1 entry.2

/-- All of them fit their length fields. -/
def Attribute.Fit (entries : List (UInt16 × List UInt8)) : Prop :=
  ∀ entry ∈ entries, 4 + entry.2.length ≤ Draft.maxAttributeLength

/-- What an attribute says: its kind and its value. -/
def Attribute.entry (a : Attribute) : UInt16 × List UInt8 := (a.kind, a.value)

/-- Encoded attributes read back as they were written, and nothing else is read. -/
lemma AttributeChain.toList_of_encodeAll {entries : List (UInt16 × List UInt8)} {c : AttributeChain}
    (h : c.remaining = Attribute.encodeAll entries) (hfits : Attribute.Fit entries) :
    c.toList.map Attribute.entry = entries := by
  induction entries generalizing c with
  | nil => rw [toList_of_remaining_nil h, List.map_nil]
  | cons entry entries ih =>
    obtain ⟨kind, value⟩ := entry
    rw [Attribute.encodeAll, List.flatMap_cons] at h
    have hlength := hfits _ List.mem_cons_self
    rw [toList_eq_cons (Attribute.next?_of_encode h hlength), List.map_cons,
      ih (Attribute.remaining_of_encode h) fun e he => hfits e (List.mem_cons_of_mem _ he)]
    rfl

/-- The same for attributes behind a header. -/
lemma AttributeChain.toList_behind {entries : List (UInt16 × List UInt8)} {header : List UInt8}
    {size : Nat} (hsize : header.length = size) (hfits : Attribute.Fit entries) :
    (toList { bytes := (header ++ Attribute.encodeAll entries).drop size }).map Attribute.entry
      = entries :=
  toList_of_encodeAll (by rw [remaining, List.drop_zero, List.drop_left' hsize]) hfits

namespace Attribute

variable {a : Attribute}

/-- The encodings of two rows stand side by side. -/
lemma encodeAll_append (entries entries' : List (UInt16 × List UInt8)) :
    encodeAll (entries ++ entries') = encodeAll entries ++ encodeAll entries' :=
  List.flatMap_append

/-- The same for attributes inside the value of another one. -/
lemma toList_nested {entries : List (UInt16 × List UInt8)} (h : a.value = encodeAll entries)
    (hfits : Fit entries) : a.nested.toList.map entry = entries :=
  AttributeChain.toList_of_encodeAll (c := a.nested) h hfits

/-- Text with one zero byte behind it is recovered. -/
lemma text?_of_terminated {text : String} (h : a.value = Text.utf8 text ++ [0]) :
    a.text? = some text := by
  rw [text?, unterminated, h, List.getLast?_concat, if_pos rfl, List.dropLast_concat,
    Text.ofUtf8?_utf8]

/-- A number is recovered from its four bytes. -/
lemma number_of_ofU32 {number : UInt32} (h : a.value = ofU32 number) : a.number = .ok number := by
  have hread := toU32_ofU32_append number []
  rw [List.append_nil] at hread
  rw [Attribute.number, h, if_neg (by rw [length_ofU32]; decide), hread]

/-- A signed number is recovered as the unsigned one of the same bytes. -/
lemma number_of_ofI32 {number : Int32} (h : a.value = ofI32 number) :
    a.number = .ok number.toUInt32 :=
  number_of_ofU32 h

end Attribute

end Rtnetlink
