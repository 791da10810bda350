import Rtnetlink.Wire.Header

/-!
# Batches of records and the status they carry

The kernel answers with batches.  A batch is a row of records, each a header and a payload padded
to four bytes.  Decoding ends at the first place where no header fits or the length field cannot be
right.  A record of type error carries a status: zero for an acknowledgment, or the negative of an
error number.
-/

namespace Rtnetlink

open LittleEndian

/-- What a record of type error reports. -/
structure Status where
  /-- Zero for an acknowledgment, else the negative of an error number. -/
  code : Int32
  /-- The header of the request that is answered, if the kernel repeated it. -/
  request : Option Header
deriving DecidableEq, Repr

namespace Status

/-- The size of the code. -/
def codeSize : Nat := 4

/-- Reads a status from the payload of a record. -/
def decode (payload : List UInt8) : Except Malformed Status :=
  if payload.length < codeSize then
    .error (.truncated codeSize payload.length)
  else
    .ok { code := toI32 payload, request := (Header.decode (payload.drop codeSize)).toOption }

/-- Whether the status says that the request was carried out. -/
def isAck (s : Status) : Bool := s.code == 0

/-- The negative of a code; the least code has none and is taken to the greatest. -/
def negated (code : Int32) : Int32 :=
  if code = Int32.minValue then Int32.maxValue else -code

/-- The reported error number, if the status is not an acknowledgment. -/
def errorNumber? (s : Status) : Option Int32 :=
  if s.code = 0 then none else some (negated s.code)

end Status

/-- One message out of a batch. -/
structure Record where
  /-- Its header. -/
  header : Header
  /-- The bytes between its header and its padding. -/
  payload : List UInt8
deriving DecidableEq, Repr

namespace Record

/-- The record at the start of a byte string.  Its length field must cover the header and no more
than the bytes that are there. -/
def decode (bytes : List UInt8) : Except Malformed Record :=
  match Header.decode bytes with
  | .error e => .error e
  | .ok header =>
    let length := header.length.toNat
    if length < Header.size then
      .error (.invalidLength length)
    else if bytes.length < length then
      .error (.truncated length bytes.length)
    else
      .ok { header, payload := (bytes.take length).drop Header.size }

/-- The bytes the record takes up in its batch, padding included. -/
def alignedLength (r : Record) : Nat := align r.header.length.toNat

/-- Whether the record ends an answer in several parts. -/
def isDone (r : Record) : Bool := r.header.type == MessageType.done

/-- Whether the record reports a status. -/
def isError (r : Record) : Bool := r.header.type == MessageType.error

/-- The status that a record of type error reports. -/
def status? (r : Record) : Option (Except Malformed Status) :=
  if r.isError then some (Status.decode r.payload) else none

theorem size_le_alignedLength {bytes : List UInt8} {r : Record} (h : decode bytes = .ok r) :
    Header.size ≤ r.alignedLength := by
  unfold decode at h
  split at h
  · cases h
  · next header _ =>
    simp only at h
    split at h
    · cases h
    · next hlong =>
      split at h
      · cases h
      · injection h with h
        subst h
        have hle := le_align header.length.toNat
        simp only [alignedLength]
        omega

theorem size_le_length {bytes : List UInt8} {r : Record} (h : decode bytes = .ok r) :
    Header.size ≤ bytes.length := by
  unfold decode Header.decode at h
  split at h
  · cases h
  · next header hheader =>
    split at hheader
    · cases hheader
    · omega

end Record

/-- What is left of a batch. -/
structure Batch where
  /-- The bytes that have not been read. -/
  bytes : List UInt8
deriving DecidableEq, Repr

namespace Batch

/-- The next record and the batch after it, if a record fits. -/
def next? (b : Batch) : Option (Record × Batch) :=
  match Record.decode b.bytes with
  | .ok record => some (record, { bytes := b.bytes.drop record.alignedLength })
  | .error _ => none

/-- Reads the next record; where there is none, the rest of the batch is given up. -/
def next (b : Batch) : Option Record × Batch :=
  match b.next? with
  | some (record, rest) => (some record, rest)
  | none => (none, { bytes := [] })

theorem length_of_next? {b rest : Batch} {r : Record} (h : b.next? = some (r, rest)) :
    rest.bytes.length < b.bytes.length := by
  unfold next? at h
  split at h
  · next record hrecord =>
    simp only [Option.some.injEq, Prod.mk.injEq] at h
    obtain ⟨rfl, rfl⟩ := h
    have hstep := Record.size_le_alignedLength hrecord
    have hroom := Record.size_le_length hrecord
    simp only [List.length_drop, Header.size] at hstep hroom ⊢
    omega
  · cases h

/-- The records from here to the end. -/
def toList (b : Batch) : List Record :=
  match h : b.next? with
  | some (record, rest) =>
    have := length_of_next? h
    record :: toList rest
  | none => []
termination_by b.bytes.length

/-- The batch after its last record: nothing is left of it. -/
def finish (b : Batch) : Batch :=
  match h : b.next? with
  | some (_, rest) =>
    have := length_of_next? h
    finish rest
  | none => b.next.2
termination_by b.bytes.length

end Batch

end Rtnetlink
