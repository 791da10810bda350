import Mathlib.Tactic.Common
import Rtnetlink.Wire.Attribute
import Rtnetlink.Wire.Family
import Rtnetlink.Wire.Netem
import Rtnetlink.Wire.Record

/-!
# What is written reads back

Numbers, headers and text are written as bytes of a known length, and read back from the start of
whatever they stand in.  Batches and chains are read element by element.

* `LittleEndian.value_encode`, `LittleEndian.encode_value`: numbers and their bytes, both ways;
* `Header.decode_encode_append`, `AttributeHeader.decode_encode_append`: a written header reads
  back, whatever follows it;
* `Batch.toList_eq_cons`, `AttributeChain.toList_eq_cons`: what is left to read, by what comes next.
-/

namespace Rtnetlink

/-! ## Numbers -/

namespace LittleEndian

@[simp] lemma length_encode (width n : Nat) : (encode width n).length = width := by
  induction width generalizing n with
  | zero => rfl
  | succ width ih => simp [encode, ih]

/-- Reading what was written gives the number back, reduced to the width. -/
lemma value_encode (width n : Nat) : value (encode width n) = n % byteLimit width := by
  induction width generalizing n with
  | zero => simp [encode, value, byteLimit, Nat.mod_one]
  | succ width ih =>
    have hsplit := Nat.mod_mul (a := 256) (b := byteLimit width) (x := n)
    simp only [encode, value, ih, UInt8.toNat_ofNat', byteLimit]
    omega

/-- Writing what was read gives the bytes back. -/
lemma encode_value (bytes : List UInt8) : encode bytes.length (value bytes) = bytes := by
  induction bytes with
  | nil => rfl
  | cons byte rest ih =>
    -- the low byte is split off again
    have hbyte := byte.toNat_lt
    have hlow : (byte.toNat + 256 * value rest) / 256 = value rest := by omega
    have hhead : UInt8.ofNat (byte.toNat + 256 * value rest) = byte := by
      apply UInt8.toNat_inj.1
      simp only [UInt8.toNat_ofNat']
      omega
    simp [encode, value, hlow, hhead, ih]

@[simp] lemma length_ofU16 (word : UInt16) : (ofU16 word).length = 2 := length_encode ..

@[simp] lemma length_ofU32 (word : UInt32) : (ofU32 word).length = 4 := length_encode ..

@[simp] lemma length_ofI32 (word : Int32) : (ofI32 word).length = 4 := length_encode ..

@[simp] lemma toU16_ofU16_append (word : UInt16) (rest : List UInt8) :
    toU16 (ofU16 word ++ rest) = word := by
  have htake : (ofU16 word ++ rest).take 2 = ofU16 word := List.take_left' (length_ofU16 word)
  have hword := word.toNat_lt
  apply UInt16.toNat_inj.1
  rw [toU16, htake, ofU16, value_encode]
  simp only [UInt16.toNat_ofNat', byteLimit]
  omega

@[simp] lemma toU32_ofU32_append (word : UInt32) (rest : List UInt8) :
    toU32 (ofU32 word ++ rest) = word := by
  have htake : (ofU32 word ++ rest).take 4 = ofU32 word := List.take_left' (length_ofU32 word)
  have hword := word.toNat_lt
  apply UInt32.toNat_inj.1
  rw [toU32, htake, ofU32, value_encode]
  simp only [UInt32.toNat_ofNat', byteLimit]
  omega

@[simp] lemma toI32_ofI32_append (word : Int32) (rest : List UInt8) :
    toI32 (ofI32 word ++ rest) = word := by
  simp [toI32, ofI32]

end LittleEndian

/-- An overlay inside a byte string keeps its length. -/
lemma length_overlay {base bytes : List UInt8} {offset : Nat}
    (hfits : offset + bytes.length ≤ base.length) :
    (overlay base offset bytes).length = base.length := by
  simp only [overlay, List.length_append, List.length_take, List.length_drop]
  omega

/-- Encoded text reads back. -/
lemma Text.ofUtf8?_utf8 (text : String) : ofUtf8? (utf8 text) = some text := by
  have hvalid : ByteArray.IsValidUTF8 ⟨text.toByteArray.data⟩ := text.isValidUTF8
  simp [ofUtf8?, utf8, String.fromUTF8?, String.fromUTF8, hvalid]

/-! ## Rounding up -/

section Align

variable {length start : Nat}

lemma align_lt (length : Nat) : align length < length + 4 := by
  unfold align
  omega

lemma four_dvd_align (length : Nat) : 4 ∣ align length := by
  unfold align
  omega

lemma align_of_dvd (h : 4 ∣ length) : align length = length := by
  unfold align
  omega

lemma align_add_of_dvd (h : 4 ∣ start) (length : Nat) :
    align (start + length) = start + align length := by
  unfold align
  omega

end Align

/-! ## Headers -/

open LittleEndian

namespace Header

@[simp] lemma length_encode (h : Header) : h.encode.length = size := rfl

lemma drop_encode_append (h : Header) (rest : List UInt8) : (h.encode ++ rest).drop size = rest :=
  List.drop_left' (length_encode h)

lemma decode_encode_append (h : Header) (rest : List UInt8) :
    decode (h.encode ++ rest) = .ok h := by
  have hroom : ¬ (h.encode ++ rest).length < size := by simp
  have htype : (h.encode ++ rest).drop 4
      = ofU16 h.type ++ (ofU16 h.flags ++ (ofU32 h.sequence ++ (ofU32 h.portId ++ rest))) := rfl
  have hflags : (h.encode ++ rest).drop 6
      = ofU16 h.flags ++ (ofU32 h.sequence ++ (ofU32 h.portId ++ rest)) := rfl
  have hsequence : (h.encode ++ rest).drop 8 = ofU32 h.sequence ++ (ofU32 h.portId ++ rest) := rfl
  have hport : (h.encode ++ rest).drop 12 = ofU32 h.portId ++ rest := rfl
  have hlength : toU32 (h.encode ++ rest) = h.length := by
    rw [encode, List.append_assoc, toU32_ofU32_append]
  rw [decode, if_neg hroom, htype, hflags, hsequence, hport, hlength]
  simp

end Header

namespace AttributeHeader

@[simp] lemma length_encode (h : AttributeHeader) : h.encode.length = size := rfl

lemma decode_encode_append (h : AttributeHeader) (rest : List UInt8) :
    decode (h.encode ++ rest) = .ok h := by
  have hroom : ¬ (h.encode ++ rest).length < size := by simp
  have hkind : (h.encode ++ rest).drop 2 = ofU16 h.kind ++ rest := rfl
  have hlength : toU16 (h.encode ++ rest) = h.length := by
    rw [encode, List.append_assoc, toU16_ofU16_append]
  rw [decode, if_neg hroom, hkind, hlength]
  simp

end AttributeHeader

/-! The fixed headers and options have a fixed size. -/

@[simp] lemma LinkHeader.length_cells (h : LinkHeader) : h.cells.length = size := rfl

@[simp] lemma AddressHeader.length_cells (h : AddressHeader) : h.cells.length = size := rfl

@[simp] lemma RouteHeader.length_cells (h : RouteHeader) : h.cells.length = size := rfl

@[simp] lemma QdiscHeader.length_cells (h : QdiscHeader) : h.cells.length = size := rfl

@[simp] lemma NetemOptions.length_encode (o : NetemOptions) : o.encode.length = size := rfl

@[simp] lemma NetemRate.length_encode (r : NetemRate) : r.encode.length = size := rfl

/-! ## Batches and chains -/

namespace Batch

variable {b rest : Batch} {r : Record}

lemma toList_eq_cons (h : b.next? = some (r, rest)) : b.toList = r :: rest.toList := by
  rw [toList]
  split
  · next hfound =>
    cases h.symm.trans hfound
    rfl
  · next hend => cases h.symm.trans hend

lemma toList_eq_nil (h : b.next? = none) : b.toList = [] := by
  rw [toList]
  split
  · next hfound => cases h.symm.trans hfound
  · rfl

end Batch

namespace AttributeChain

variable {c rest : AttributeChain} {a : Attribute}

lemma toList_eq_cons (h : c.next? = some (a, rest)) : c.toList = a :: rest.toList := by
  rw [toList]
  split
  · next hfound =>
    cases h.symm.trans hfound
    rfl
  · next hend => cases h.symm.trans hend

lemma toList_eq_nil (h : c.next? = none) : c.toList = [] := by
  rw [toList]
  split
  · next hfound => cases h.symm.trans hfound
  · rfl

end AttributeChain

end Rtnetlink
