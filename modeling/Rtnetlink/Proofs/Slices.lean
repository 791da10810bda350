import Rtnetlink.Proofs.Encoding

/-!
# Decoding slice by slice

The decoders are total: where a slice would reach past the end of the bytes, they take what is
there.  Here each of them is written once more with every slice and every sum checked, so that it
has no result as soon as one of them is out of range.  The two always agree, whatever the bytes are
and whatever lengths they claim.

* `slice?`: a slice that has to lie in the bytes;
* `SlicesInRange`: no decoder leaves the bytes;
* `slicesInRange`: none does, on any bytes.
-/

namespace Rtnetlink

open LittleEndian

/-- The bytes from `start` up to `stop`, if these are places of the byte string in this order. -/
def slice? (bytes : List UInt8) (start stop : Nat) : Option (List UInt8) :=
  if start ≤ stop ∧ stop ≤ bytes.length then some ((bytes.take stop).drop start) else none

/-- A sum, if it is kept as it is. -/
def Size.sum? (m n : Nat) : Option Nat := if m + n < count then some (m + n) else none

/-! ## The checked decoders -/

/-- Reads a header field by field. -/
def Header.decodeChecked (bytes : List UInt8) : Option (Except Malformed Header) :=
  if bytes.length < size then
    some (.error (.truncated size bytes.length))
  else do
    let fixed ← slice? bytes 0 size
    let length ← slice? fixed 0 4
    let type ← slice? fixed 4 6
    let flags ← slice? fixed 6 8
    let sequence ← slice? fixed 8 12
    let portId ← slice? fixed 12 16
    some (.ok {
      length := toU32 length
      type := toU16 type
      flags := toU16 flags
      sequence := toU32 sequence
      portId := toU32 portId })

/-- Reads a record, whose payload is as long as its header says. -/
def Record.decodeChecked (bytes : List UInt8) : Option (Except Malformed Record) := do
  match ← Header.decodeChecked bytes with
  | .error cause => some (.error cause)
  | .ok header =>
    let length := header.length.toNat
    if length < Header.size then
      some (.error (.invalidLength length))
    else if bytes.length < length then
      some (.error (.truncated length bytes.length))
    else do
      let payload ← slice? bytes Header.size (Header.size + header.payloadLength)
      some (.ok { header, payload })

/-- Reads a status, and the header behind it if there is one. -/
def Status.decodeChecked (payload : List UInt8) : Option (Except Malformed Status) :=
  if payload.length < codeSize then
    some (.error (.truncated codeSize payload.length))
  else do
    let code ← slice? payload 0 codeSize
    let rest ← slice? payload codeSize payload.length
    let request ← Header.decodeChecked rest
    some (.ok { code := toI32 code, request := request.toOption })

/-- Reads the header of an attribute. -/
def AttributeHeader.decodeChecked (bytes : List UInt8) :
    Option (Except Malformed AttributeHeader) :=
  if bytes.length < size then
    some (.error (.truncated size bytes.length))
  else do
    let fixed ← slice? bytes 0 size
    let length ← slice? fixed 0 2
    let kind ← slice? fixed 2 4
    some (.ok { length := toU16 length, kind := toU16 kind })

/-- Reads the next attribute of a chain.  An offset past the end means that there is none. -/
def AttributeChain.nextChecked (c : AttributeChain) :
    Option (Option (Attribute × AttributeChain)) :=
  if c.bytes.length < c.offset then
    some none
  else do
    let remaining ← slice? c.bytes c.offset c.bytes.length
    match ← AttributeHeader.decodeChecked remaining with
    | .error _ => some none
    | .ok header =>
      let length := header.length.toNat
      if length < AttributeHeader.size ∨ remaining.length < length then
        some none
      else do
        let value ← slice? remaining AttributeHeader.size length
        let offset ← Size.sum? c.offset (align length)
        some (some ({ offset := c.offset, kind := header.kind, value }, { c with offset }))

/-- Reads the number that an attribute holds. -/
def Attribute.numberChecked (a : Attribute) : Option (Except Malformed UInt32) :=
  if a.value.length < 4 then
    some (.error (.truncated 4 a.value.length))
  else do
    let bytes ← slice? a.value 0 4
    some (.ok (toU32 bytes))

/-! ## They agree with the others -/

section Slices

variable {bytes : List UInt8} {start stop : Nat}

lemma slice?_of_le (hstart : start ≤ stop) (hstop : stop ≤ bytes.length) :
    slice? bytes start stop = some ((bytes.take stop).drop start) :=
  if_pos ⟨hstart, hstop⟩

/-- A field of a fixed part at the start of the bytes. -/
lemma slice?_take {size : Nat} (hstart : start ≤ stop) (hstop : stop ≤ size)
    (hsize : size ≤ bytes.length) :
    slice? (bytes.take size) start stop = some ((bytes.drop start).take (stop - start)) := by
  rw [slice?_of_le hstart (by rw [List.length_take]; omega), List.take_take, Nat.min_eq_left hstop,
    List.drop_take]

lemma toU16_take (bytes : List UInt8) : toU16 (bytes.take 2) = toU16 bytes := by
  rw [toU16, toU16, List.take_take, Nat.min_self]

lemma toU32_take (bytes : List UInt8) : toU32 (bytes.take 4) = toU32 bytes := by
  rw [toU32, toU32, List.take_take, Nat.min_self]

end Slices

lemma Header.decodeChecked_eq (bytes : List UInt8) :
    Header.decodeChecked bytes = some (Header.decode bytes) := by
  unfold Header.decodeChecked Header.decode
  split
  · rfl
  · next hsize =>
    have hsize := Nat.le_of_not_lt hsize
    have hlength := slice?_take (by decide : 0 ≤ 4) (by decide : 4 ≤ size) hsize
    have htype := slice?_take (by decide : 4 ≤ 6) (by decide : 6 ≤ size) hsize
    have hflags := slice?_take (by decide : 6 ≤ 8) (by decide : 8 ≤ size) hsize
    have hsequence := slice?_take (by decide : 8 ≤ 12) (by decide : 12 ≤ size) hsize
    have hportId := slice?_take (by decide : 12 ≤ 16) (by decide : 16 ≤ size) hsize
    rw [slice?_of_le (Nat.zero_le _) hsize, List.drop_zero]
    simp only [Option.bind_eq_bind, Option.bind_some, hlength, htype, hflags, hsequence, hportId,
      Nat.reduceSub, List.drop_zero, toU16_take, toU32_take]

lemma Record.decodeChecked_eq (bytes : List UInt8) :
    Record.decodeChecked bytes = some (Record.decode bytes) := by
  unfold Record.decodeChecked Record.decode
  rw [Header.decodeChecked_eq, Option.bind_eq_bind, Option.bind_some]
  rcases Header.decode bytes with cause | header
  · rfl
  · dsimp only
    split
    · rfl
    · next hheader =>
      split
      · rfl
      · next hlength =>
        -- the payload ends where the record does
        have hstop : Header.size + header.payloadLength = header.length.toNat :=
          Nat.add_sub_cancel' (Nat.le_of_not_lt hheader)
        rw [hstop, slice?_of_le (Nat.le_of_not_lt hheader) (Nat.le_of_not_lt hlength)]
        rfl

lemma Status.decodeChecked_eq (payload : List UInt8) :
    Status.decodeChecked payload = some (Status.decode payload) := by
  unfold Status.decodeChecked Status.decode
  split
  · rfl
  · next hsize =>
    have hsize := Nat.le_of_not_lt hsize
    rw [slice?_of_le (Nat.zero_le _) hsize, slice?_of_le hsize (Nat.le_refl _), List.take_length]
    simp only [Option.bind_eq_bind, Option.bind_some, Header.decodeChecked_eq, List.drop_zero]
    rw [toI32, toI32, codeSize, toU32_take]

lemma AttributeHeader.decodeChecked_eq (bytes : List UInt8) :
    AttributeHeader.decodeChecked bytes = some (AttributeHeader.decode bytes) := by
  unfold AttributeHeader.decodeChecked AttributeHeader.decode
  split
  · rfl
  · next hsize =>
    have hsize := Nat.le_of_not_lt hsize
    have hlength := slice?_take (by decide : 0 ≤ 2) (by decide : 2 ≤ size) hsize
    have hkind := slice?_take (by decide : 2 ≤ 4) (by decide : 4 ≤ size) hsize
    rw [slice?_of_le (Nat.zero_le _) hsize, List.drop_zero]
    simp only [Option.bind_eq_bind, Option.bind_some, hlength, hkind, Nat.reduceSub,
      List.drop_zero, toU16_take]

/-- No sum starts over in a chain that storage can hold. -/
lemma AttributeChain.nextChecked_eq (c : AttributeChain) (hsmall : c.bytes.length ≤ Size.greatest) :
    c.nextChecked = some c.next? := by
  unfold nextChecked next?
  split
  · next hpast =>
    have hnone : c.remaining = [] := List.drop_eq_nil_of_le (Nat.le_of_lt hpast)
    rw [hnone]
    rfl
  · next hinside =>
    have hinside := Nat.le_of_not_lt hinside
    rw [slice?_of_le hinside (Nat.le_refl _), List.take_length]
    simp only [Option.bind_eq_bind, Option.bind_some, AttributeHeader.decodeChecked_eq]
    rw [← remaining]
    rcases AttributeHeader.decode c.remaining with cause | header
    · rfl
    · dsimp only
      split
      · rfl
      · next hfits =>
        rw [not_or, Nat.not_lt, Nat.not_lt] at hfits
        have hend : c.offset + align header.length.toNat < Size.count := by
          have halign := align_lt header.length.toNat
          have hremaining : c.remaining.length = c.bytes.length - c.offset := List.length_drop
          simp only [Size.greatest, Size.count] at hsmall ⊢
          omega
        rw [slice?_of_le hfits.1 hfits.2, Size.sum?, if_pos hend]
        rfl

lemma Attribute.numberChecked_eq (a : Attribute) : a.numberChecked = some a.number := by
  unfold numberChecked number
  split
  · rfl
  · next hsize =>
    rw [slice?_of_le (Nat.zero_le _) (Nat.le_of_not_lt hsize)]
    simp only [Option.bind_eq_bind, Option.bind_some, List.drop_zero, toU32_take]

/-- Whatever is decoded from the bytes, every slice lies in them: as a header, a record, a status,
an attribute at any offset, and a number. -/
structure SlicesInRange (bytes : List UInt8) : Prop where
  header : Header.decodeChecked bytes = some (Header.decode bytes)
  record : Record.decodeChecked bytes = some (Record.decode bytes)
  status : Status.decodeChecked bytes = some (Status.decode bytes)
  chain : ∀ offset, AttributeChain.nextChecked { bytes, offset }
    = some (AttributeChain.next? { bytes, offset })
  number : ∀ offset kind, Attribute.numberChecked { offset, kind, value := bytes }
    = some (Attribute.number { offset, kind, value := bytes })

/-- **No decoder leaves its bytes**, whatever these are. -/
theorem slicesInRange {bytes : List UInt8} (hsmall : bytes.length ≤ Size.greatest) :
    SlicesInRange bytes where
  header := Header.decodeChecked_eq bytes
  record := Record.decodeChecked_eq bytes
  status := Status.decodeChecked_eq bytes
  chain offset := AttributeChain.nextChecked_eq { bytes, offset } hsmall
  number offset kind := Attribute.numberChecked_eq { offset, kind, value := bytes }

end Rtnetlink
