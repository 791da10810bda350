import Rtnetlink.Proofs.Encoding

/-!
# Batches as tilings

What comes from the kernel is a byte string that nobody has checked.  This file says which records
it holds without a decoder: by the places where they stand.  A record stands at a place if its
header is there and its length field covers that header and no byte that is missing; the next one
stands where the length, rounded up to four, ends.  The records lie side by side from the start of
the batch up to the first place where none stands.

In the other direction, whole records that are written one after another, each padded to four bytes,
are what is read back, whatever the padding holds.

* `Record.decode_drop_eq_ok_iff`, `Batch.next?_drop_eq_none_iff`: decoding at a place;
* `Batch.tiled_toList`: the records of any byte string tile it;
* `Batch.toList_of_written`: written records are read back;
* `Batch.reads_tile_and_recover`: both, for the calls to the decoder.
-/

namespace Rtnetlink

open LittleEndian

namespace Record

/-- The record that stands at a place of a byte string: its header fields are the numbers found
there, its length field covers the header and ends inside the byte string, and its payload is what
lies between the two. -/
structure StandsAt (bytes : List UInt8) (place : Nat) (r : Record) : Prop where
  length : r.header.length = toU32 (bytes.drop place)
  type : r.header.type = toU16 (bytes.drop (place + 4))
  flags : r.header.flags = toU16 (bytes.drop (place + 6))
  sequence : r.header.sequence = toU32 (bytes.drop (place + 8))
  portId : r.header.portId = toU32 (bytes.drop (place + 12))
  covers : 16 ≤ r.header.length.toNat
  inside : place + r.header.length.toNat ≤ bytes.length
  payload : r.payload = (bytes.drop (place + 16)).take (r.header.length.toNat - 16)

/-- A record whose length field counts its header and its payload. -/
def IsWhole (r : Record) : Prop := r.header.length.toNat = 16 + r.payload.length

instance : DecidablePred IsWhole := fun r =>
  inferInstanceAs (Decidable (r.header.length.toNat = 16 + r.payload.length))

/-- The length of the padding behind a record. -/
def gap (r : Record) : Nat := r.alignedLength - r.header.length.toNat

end Record

namespace Batch

/-- No record stands at a place: fewer bytes than a header are left, or the length field is below
the size of a header or above what is left. -/
def EndsAt (bytes : List UInt8) (place : Nat) : Prop :=
  bytes.length - place < 16 ∨ (toU32 (bytes.drop place)).toNat < 16 ∨
    bytes.length - place < (toU32 (bytes.drop place)).toNat

/-- The records lie side by side from a place on, up to the first place where none stands. -/
inductive Tiled (bytes : List UInt8) : (place : Nat) → (records : List Record) → Prop
  /-- No record stands here. -/
  | ends {place : Nat} (hends : EndsAt bytes place) : Tiled bytes place []
  /-- One stands here, and the others follow where it ends. -/
  | record {place : Nat} {r : Record} {records : List Record} (hstands : r.StandsAt bytes place)
      (hrest : Tiled bytes (place + align r.header.length.toNat) records) :
      Tiled bytes place (r :: records)

/-- Whole records written one after another: each header is written into sixteen bytes and is
followed by the payload and by padding.  Behind the last record padding may be missing, and a rest
may follow in which no header fits. -/
inductive Written : (records : List Record) → (bytes : List UInt8) → Prop
  /-- Nothing is written. -/
  | rest {rest : List UInt8} (hrest : rest.length < 16) : Written [] rest
  /-- The last record, with as much of its padding as there is. -/
  | last {r : Record} {room front padding rest : List UInt8} (hwhole : r.IsWhole)
      (hroom : room.length = 16) (hfront : r.header.writeTo? room = some front)
      (hpadding : padding.length ≤ r.gap) (hrest : rest.length < 16) :
      Written [r] (front ++ r.payload ++ padding ++ rest)
  /-- A record with all of its padding, and the records after it. -/
  | record {r : Record} {records : List Record} {room front padding bytes : List UInt8}
      (hwhole : r.IsWhole) (hroom : room.length = 16)
      (hfront : r.header.writeTo? room = some front) (hpadding : padding.length = r.gap)
      (hbytes : Written records bytes) :
      Written (r :: records) (front ++ r.payload ++ padding ++ bytes)

/-- What `count` calls for the next record bring. -/
def reads : (count : Nat) → Batch → List (Option Record)
  | 0, _ => []
  | count + 1, b => b.next.1 :: reads count b.next.2

end Batch

/-! ## Decoding at a place -/

namespace Record

variable {bytes rest : List UInt8} {place : Nat} {r : Record}

lemma decode_drop_eq_ok_iff : decode (bytes.drop place) = .ok r ↔ r.StandsAt bytes place := by
  constructor
  · intro h
    unfold decode Header.decode at h
    split at h
    · cases h
    · next header hheader =>
      split at hheader
      · cases hheader
      · cases hheader
        simp only [Header.size, List.length_drop] at h
        split at h
        · cases h
        · split at h
          · cases h
          · cases h
            constructor <;> simp only [List.drop_drop]
            · omega
            · omega
            · rw [List.drop_take, List.drop_drop]
  · intro h
    have hheader : Header.decode (bytes.drop place) = .ok r.header := by
      have hcovers := h.covers
      have hinside := h.inside
      rw [Header.decode, if_neg (by simp only [List.length_drop, Header.size]; omega)]
      simp only [List.drop_drop, ← h.length, ← h.type, ← h.flags, ← h.sequence, ← h.portId]
    have hcovers : ¬ r.header.length.toNat < Header.size := Nat.not_lt.2 h.covers
    have hinside : ¬ (bytes.drop place).length < r.header.length.toNat := by
      have := h.inside
      simp only [List.length_drop]
      omega
    simp only [decode, hheader, if_neg hcovers, if_neg hinside, List.drop_take, List.drop_drop]
    rw [Header.size, ← h.payload]

lemma endsAt_iff : Batch.EndsAt bytes place ↔ ∀ r : Record, ¬ r.StandsAt bytes place := by
  constructor
  · intro hends r h
    have hcovers := h.covers
    have hinside := h.inside
    rw [h.length] at hcovers hinside
    unfold Batch.EndsAt at hends
    omega
  · intro hnone
    by_contra hends
    simp only [Batch.EndsAt, not_or, Nat.not_lt] at hends
    obtain ⟨hroom, hcovers, hinside⟩ := hends
    let header : Header := {
      length := toU32 (bytes.drop place)
      type := toU16 (bytes.drop (place + 4))
      flags := toU16 (bytes.drop (place + 6))
      sequence := toU32 (bytes.drop (place + 8))
      portId := toU32 (bytes.drop (place + 12)) }
    let payload := (bytes.drop (place + 16)).take (header.length.toNat - 16)
    refine hnone { header, payload } ⟨rfl, rfl, rfl, rfl, rfl, hcovers, ?_, rfl⟩
    dsimp only [header]
    omega

/-! ## Decoding what was written -/

lemma eq_encode_of_writeTo? {h : Header} {room front : List UInt8} (hroom : room.length = 16)
    (hfront : h.writeTo? room = some front) : front = h.encode := by
  have hfits : Header.size ≤ room.length := Nat.le_of_eq hroom.symm
  have hover : room.drop (0 + h.encode.length) = [] :=
    List.drop_of_length_le (Nat.le_of_eq (by rw [hroom, Header.length_encode]; rfl))
  rw [Header.writeTo?, if_pos hfits, Option.some.injEq, overlay, hover] at hfront
  simpa using hfront.symm

lemma decode_encode_append (hwhole : r.IsWhole) (rest : List UInt8) :
    decode (r.header.encode ++ r.payload ++ rest) = .ok r := by
  have hlength : (r.header.encode ++ r.payload).length = r.header.length.toNat := by
    rw [List.length_append, Header.length_encode, hwhole, Header.size]
  have hcovers : ¬ r.header.length.toNat < Header.size := by
    rw [hwhole, Header.size]
    omega
  have hinside : ¬ (r.header.encode ++ r.payload ++ rest).length < r.header.length.toNat := by
    rw [List.length_append, hlength]
    omega
  have hheader : Header.decode (r.header.encode ++ r.payload ++ rest) = .ok r.header := by
    rw [List.append_assoc, Header.decode_encode_append]
  simp only [decode, hheader, if_neg hcovers, if_neg hinside, List.take_left' hlength,
    Header.drop_encode_append]

/-- A record and its padding take up its aligned length. -/
lemma drop_alignedLength (hwhole : r.IsWhole) {padding : List UInt8} (rest : List UInt8)
    (hpadding : padding.length = r.gap) :
    (r.header.encode ++ r.payload ++ padding ++ rest).drop r.alignedLength = rest := by
  apply List.drop_left'
  have haligned : r.header.length.toNat ≤ r.alignedLength := le_align _
  have hlength : r.header.length.toNat = 16 + r.payload.length := hwhole
  simp only [List.length_append, Header.length_encode, Header.size, hpadding, gap]
  omega

end Record

namespace Batch

variable {bytes : List UInt8} {place : Nat} {r : Record} {records : List Record}

/-! ## The records of a byte string tile it -/

lemma next?_drop_of_standsAt (h : r.StandsAt bytes place) :
    next? { bytes := bytes.drop place }
      = some (r, { bytes := bytes.drop (place + align r.header.length.toNat) }) := by
  simp only [next?, Record.decode_drop_eq_ok_iff.2 h, Record.alignedLength, List.drop_drop]

lemma next?_drop_eq_none_iff :
    next? { bytes := bytes.drop place } = none ↔ EndsAt bytes place := by
  rw [Record.endsAt_iff]
  constructor
  · intro hnone r h
    rw [next?_drop_of_standsAt h] at hnone
    cases hnone
  · intro hnone
    rcases hdecode : Record.decode (bytes.drop place) with cause | r
    · simp only [next?, hdecode]
    · exact absurd (Record.decode_drop_eq_ok_iff.1 hdecode) (hnone r)

lemma toList_of_tiled (h : Tiled bytes place records) :
    toList { bytes := bytes.drop place } = records := by
  induction h with
  | ends hends => exact toList_eq_nil (next?_drop_eq_none_iff.2 hends)
  | record hstands _ ih => rw [toList_eq_cons (next?_drop_of_standsAt hstands), ih]

/-- The records that are read tile the byte string, whatever it holds. -/
lemma tiled_toList (bytes : List UInt8) (place : Nat) :
    Tiled bytes place (toList { bytes := bytes.drop place }) := by
  -- the measure is what is left behind the place: a record takes at least its header away
  induction hleft : bytes.length - place using Nat.strongRecOn generalizing place with
  | ind left ih =>
    by_cases hends : EndsAt bytes place
    · rw [toList_eq_nil (next?_drop_eq_none_iff.2 hends)]
      exact .ends hends
    · simp only [Record.endsAt_iff, not_forall, not_not] at hends
      obtain ⟨r, hstands⟩ := hends
      have haligned := le_align r.header.length.toNat
      have hcovers := hstands.covers
      have hinside := hstands.inside
      rw [toList_eq_cons (next?_drop_of_standsAt hstands)]
      exact .record hstands (ih _ (by omega) _ rfl)

lemma tiled_iff : Tiled bytes place records ↔ records = toList { bytes := bytes.drop place } :=
  ⟨fun h => (toList_of_tiled h).symm, fun h => h ▸ tiled_toList bytes place⟩

/-! ## What was written is read back -/

lemma next?_of_isWhole (hwhole : r.IsWhole) (rest : List UInt8) :
    next? { bytes := r.header.encode ++ r.payload ++ rest }
      = some (r, { bytes := (r.header.encode ++ r.payload ++ rest).drop r.alignedLength }) := by
  simp only [next?, Record.decode_encode_append hwhole]

/-- No record is found where no header fits. -/
lemma toList_of_length_lt (h : bytes.length < 16) : toList { bytes } = [] := by
  have hends : EndsAt bytes 0 := Or.inl h
  exact toList_eq_nil (next?_drop_eq_none_iff.2 hends)

lemma toList_of_written (h : Written records bytes) : toList { bytes } = records := by
  induction h with
  | rest hrest => exact toList_of_length_lt hrest
  | @last r room front padding rest hwhole hroom hfront hpadding hrest =>
    rw [Record.eq_encode_of_writeTo? hroom hfront, List.append_assoc,
      toList_eq_cons (next?_of_isWhole hwhole _)]
    -- where padding is missing, bytes of the rest are taken for it
    have hlength : r.header.length.toNat = 16 + r.payload.length := hwhole
    have haligned : r.header.length.toNat ≤ r.alignedLength := le_align _
    rw [toList_of_length_lt]
    simp only [List.length_drop, List.length_append, Header.length_encode, Header.size,
      Record.gap] at hpadding ⊢
    omega
  | @record r records room front padding bytes hwhole hroom hfront hpadding hbytes ih =>
    rw [Record.eq_encode_of_writeTo? hroom hfront, List.append_assoc,
      toList_eq_cons (next?_of_isWhole hwhole _), ← List.append_assoc,
      Record.drop_alignedLength hwhole _ hpadding, ih]

/-! ## The calls to the decoder -/

/-- The calls bring the records in order and then nothing, however many are made. -/
lemma reads_eq_toList (b : Batch) (count : Nat) :
    b.reads count = (List.range count).map (b.toList[·]?) := by
  induction count generalizing b with
  | zero => rfl
  | succ count ih =>
    rw [List.range_succ_eq_map, List.map_cons, List.map_map, reads]
    rcases hnext : b.next? with _ | ⟨r, rest⟩
    · have hb : b.next = (none, { bytes := [] }) := by simp only [next, hnext]
      rw [hb, ih, toList_eq_nil hnext, toList_of_length_lt (by decide)]
      rfl
    · have hb : b.next = (some r, rest) := by simp only [next, hnext]
      rw [hb, ih, toList_eq_cons hnext]
      rfl

/-- **Decoding a batch is sound and complete.**  Exactly one row of records tiles a byte string, and
the calls to the decoder bring that row and then nothing, however many are made.  Records that were
written one after another are what the calls bring. -/
theorem reads_tile_and_recover :
    (∀ bytes, ∃ records, (∀ row, Tiled bytes 0 row ↔ row = records) ∧
      ∀ count, reads count { bytes } = (List.range count).map (records[·]?)) ∧
    ∀ records bytes, Written records bytes →
      ∀ count, reads count { bytes } = (List.range count).map (records[·]?) := by
  constructor
  · intro bytes
    refine ⟨toList { bytes }, fun row => ?_, reads_eq_toList { bytes }⟩
    rw [tiled_iff, List.drop_zero]
  · intro records bytes hwritten count
    rw [reads_eq_toList, toList_of_written hwritten]

/-- Two records are read back: the padding of the first is not zero, one byte of the padding of the
second is missing, and bytes that are no record follow. -/
theorem reads_tile_and_recover_of_odd_payloads :
    let first : Record :=
      { header := { length := 19, type := 16, flags := 2, sequence := 7, portId := 9 }
        payload := [1, 2, 3] }
    let second : Record :=
      { header := { length := 17, type := 3, sequence := 7 }, payload := [0xFF] }
    let bytes := first.header.encode ++ [1, 2, 3] ++ [0xAA]
      ++ (second.header.encode ++ [0xFF] ++ [0xBB, 0xCC] ++ [40, 0, 0, 0])
    Written [first, second] bytes ∧
      reads 4 { bytes } = [some first, some second, none, none] := by
  intro first second bytes
  have hroom : (List.replicate 16 (0xEE : UInt8)).length = 16 := rfl
  have hlast : Written [second] (second.header.encode ++ [0xFF] ++ [0xBB, 0xCC] ++ [40, 0, 0, 0]) :=
    .last (by decide) hroom rfl (by decide) (by decide)
  have hwritten : Written [first, second] bytes := .record (by decide) hroom rfl (by decide) hlast
  exact ⟨hwritten, reads_tile_and_recover.2 _ _ hwritten 4⟩

end Batch

end Rtnetlink
