import Rtnetlink.Bytes

/-!
# Options of the network emulator

The queueing discipline that delays, drops and slows down packets takes a fixed structure of six
numbers and, where the rate is limited, a second one of four.
-/

namespace Rtnetlink

open LittleEndian

/-- The fixed part of the emulator's options. -/
structure NetemOptions where
  /-- The added delay, in scheduler ticks. -/
  latency : UInt32 := 0
  /-- The length of the queue, in packets. -/
  limit : UInt32 := 0
  /-- The share of dropped packets, as a fraction of the greatest word. -/
  loss : UInt32 := 0
  /-- The distance between reordered packets. -/
  gap : UInt32 := 0
  /-- The share of duplicated packets. -/
  duplicate : UInt32 := 0
  /-- The variation of the delay, in scheduler ticks. -/
  jitter : UInt32 := 0
deriving DecidableEq, Repr

namespace NetemOptions

/-- The size of the fixed options. -/
def size : Nat := 24

/-- The 24 bytes of the fixed options. -/
def encode (o : NetemOptions) : List UInt8 :=
  ofU32 o.latency ++ (ofU32 o.limit ++ (ofU32 o.loss
    ++ (ofU32 o.gap ++ (ofU32 o.duplicate ++ ofU32 o.jitter))))

/-- A buffer with the options written to its start; there is none if the buffer is too short. -/
def writeTo? (o : NetemOptions) (buffer : List UInt8) : Option (List UInt8) :=
  if size ≤ buffer.length then some (overlay buffer 0 o.encode) else none

end NetemOptions

/-- A rate limit. -/
structure NetemRate where
  /-- Bytes per second. -/
  rate : UInt32 := 0
  /-- Bytes to count for each packet beyond its own. -/
  packetOverhead : Int32 := 0
  /-- The cell size of the link layer; zero if it has none. -/
  cellSize : UInt32 := 0
  /-- Bytes to count for each cell beyond its own. -/
  cellOverhead : Int32 := 0
deriving DecidableEq, Repr

namespace NetemRate

/-- The size of a rate limit. -/
def size : Nat := 16

/-- The 16 bytes of a rate limit. -/
def encode (r : NetemRate) : List UInt8 :=
  ofU32 r.rate ++ (ofI32 r.packetOverhead ++ (ofU32 r.cellSize ++ ofI32 r.cellOverhead))

/-- A buffer with the limit written to its start; there is none if the buffer is too short. -/
def writeTo? (r : NetemRate) (buffer : List UInt8) : Option (List UInt8) :=
  if size ≤ buffer.length then some (overlay buffer 0 r.encode) else none

end NetemRate

end Rtnetlink
