import Rtnetlink.Bytes
import Rtnetlink.Wire.Basic

/-!
# The message header

Every message starts with sixteen bytes: its length, type, flags, sequence number and the port id of
its sender.
-/

namespace Rtnetlink

open LittleEndian

/-- The fixed part in front of every message. -/
structure Header where
  /-- The length of the message with this header, before padding. -/
  length : UInt32 := 0
  /-- What the message is about. -/
  type : UInt16 := 0
  /-- Modifiers of the message. -/
  flags : UInt16 := 0
  /-- The number that ties an answer to its request. -/
  sequence : UInt32 := 0
  /-- The port id of the sender; zero for the kernel. -/
  portId : UInt32 := 0
deriving DecidableEq, Repr

namespace Header

/-- The sixteen bytes of a header. -/
def encode (h : Header) : List UInt8 :=
  ofU32 h.length ++ (ofU16 h.type ++ (ofU16 h.flags ++ (ofU32 h.sequence ++ ofU32 h.portId)))

/-- The header at the start of a byte string. -/
def decode (bytes : List UInt8) : Except Malformed Header :=
  if bytes.length < size then
    .error (.truncated size bytes.length)
  else
    .ok {
      length := toU32 bytes
      type := toU16 (bytes.drop 4)
      flags := toU16 (bytes.drop 6)
      sequence := toU32 (bytes.drop 8)
      portId := toU32 (bytes.drop 12) }

/-- A buffer with the header written to its start; there is none if the buffer is too short. -/
def writeTo? (h : Header) (buffer : List UInt8) : Option (List UInt8) :=
  if size ≤ buffer.length then some (overlay buffer 0 h.encode) else none

/-- The length of the payload that the length field announces. -/
def payloadLength (h : Header) : Nat := h.length.toNat - size

end Header

end Rtnetlink
