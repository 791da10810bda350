import Rtnetlink.Bytes
import Rtnetlink.Text.Utf8
import Rtnetlink.Wire.Basic

/-!
# Attributes: kind, length, value

The body of a message is a chain of attributes.  Each starts with a four-byte header that holds the
length of header and value together and the kind, and is padded to four bytes.  A value may itself
be a chain.  Decoding ends at the first place where no header fits or the length field cannot be
right.
-/

namespace Rtnetlink

open LittleEndian

/-- The header of one attribute. -/
structure AttributeHeader where
  /-- The length of header and value, before padding. -/
  length : UInt16 := 0
  /-- What the attribute stands for. -/
  kind : UInt16 := 0
deriving DecidableEq, Repr

namespace AttributeHeader

/-- The four bytes of an attribute header. -/
def encode (h : AttributeHeader) : List UInt8 := ofU16 h.length ++ ofU16 h.kind

/-- The attribute header at the start of a byte string. -/
def decode (bytes : List UInt8) : Except Malformed AttributeHeader :=
  if bytes.length < size then
    .error (.truncated size bytes.length)
  else
    .ok { length := toU16 bytes, kind := toU16 (bytes.drop 2) }

/-- A buffer with the header written to its start; there is none if the buffer is too short. -/
def writeTo? (h : AttributeHeader) (buffer : List UInt8) : Option (List UInt8) :=
  if size ≤ buffer.length then some (overlay buffer 0 h.encode) else none

end AttributeHeader

/-- A decoded attribute. -/
structure Attribute where
  /-- Where its header starts in the chain it was decoded from. -/
  offset : Nat
  /-- What it stands for. -/
  kind : UInt16
  /-- The bytes between its header and its padding. -/
  value : List UInt8
deriving DecidableEq, Repr

/-- A chain of attributes, read from an offset on. -/
structure AttributeChain where
  /-- The whole chain. -/
  bytes : List UInt8
  /-- Where the next attribute starts; it may lie past the end. -/
  offset : Nat := 0
deriving DecidableEq, Repr

namespace Attribute

/-- The length that the attribute's header declares: header and value. -/
def length (a : Attribute) : Nat := AttributeHeader.size + a.value.length

/-- The value as a chain of attributes. -/
def nested (a : Attribute) : AttributeChain := { bytes := a.value }

/-- The value as a 32-bit number; more bytes than four are ignored. -/
def number (a : Attribute) : Except Malformed UInt32 :=
  if a.value.length < 4 then .error (.truncated 4 a.value.length) else .ok (toU32 a.value)

/-- The value without its last byte if that is zero. -/
def unterminated (a : Attribute) : List UInt8 :=
  if a.value.getLast? = some 0 then a.value.dropLast else a.value

/-- The value as text, without a final zero byte; there is none if it is not UTF-8. -/
def text? (a : Attribute) : Option String := Text.ofUtf8? a.unterminated

end Attribute

namespace AttributeChain

/-- The bytes that have not been read. -/
def remaining (c : AttributeChain) : List UInt8 := c.bytes.drop c.offset

/-- The next attribute and the chain after it, if an attribute fits. -/
def next? (c : AttributeChain) : Option (Attribute × AttributeChain) :=
  match AttributeHeader.decode c.remaining with
  | .error _ => none
  | .ok header =>
    let length := header.length.toNat
    if length < AttributeHeader.size ∨ c.remaining.length < length then
      none
    else
      some ({ offset := c.offset
              kind := header.kind
              value := (c.remaining.take length).drop AttributeHeader.size },
            { c with offset := c.offset + align length })

/-- Reads the next attribute; a chain that has none left stays as it is. -/
def next (c : AttributeChain) : Option Attribute × AttributeChain :=
  match c.next? with
  | some (found, rest) => (some found, rest)
  | none => (none, c)

theorem remaining_length_of_next? {c rest : AttributeChain} {a : Attribute}
    (h : c.next? = some (a, rest)) : rest.remaining.length < c.remaining.length := by
  unfold next? at h
  split at h
  · simp at h
  · next header _ =>
    simp only at h
    split at h
    · simp at h
    · next hfits =>
      simp only [Option.some.injEq, Prod.mk.injEq] at h
      obtain ⟨-, rfl⟩ := h
      have hle := le_align header.length.toNat
      simp only [remaining, List.length_drop, AttributeHeader.size, not_or, Nat.not_lt] at hfits ⊢
      omega

/-- The attributes from here to the end. -/
def toList (c : AttributeChain) : List Attribute :=
  match h : c.next? with
  | some (found, rest) =>
    have := remaining_length_of_next? h
    found :: toList rest
  | none => []
termination_by c.remaining.length

/-- The chain after its last attribute. -/
def finish (c : AttributeChain) : AttributeChain :=
  match h : c.next? with
  | some (_, rest) =>
    have := remaining_length_of_next? h
    finish rest
  | none => c
termination_by c.remaining.length

/-- The first attribute of a kind. -/
def get? (c : AttributeChain) (kind : UInt16) : Option Attribute :=
  c.toList.find? (·.kind == kind)

end AttributeChain

end Rtnetlink
