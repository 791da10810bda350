/-!
# Byte strings: little-endian numbers and overlaid writes

The routing protocol stores its numbers least significant byte first.  This file writes and reads
such numbers at any width and says what it means to overwrite part of a byte string in place.
-/

namespace Rtnetlink

/-- The least number that does not fit into so many bytes. -/
def byteLimit : (width : Nat) → Nat
  | 0 => 1
  | width + 1 => 256 * byteLimit width

namespace LittleEndian

/-- The `width` bytes of `n`, least significant first.  What does not fit is dropped. -/
def encode : (width n : Nat) → List UInt8
  | 0, _ => []
  | width + 1, n => UInt8.ofNat n :: encode width (n / 256)

/-- The number a byte string stands for, least significant byte first. -/
def value : List UInt8 → Nat
  | [] => 0
  | byte :: rest => byte.toNat + 256 * value rest

/-- The two bytes of a 16-bit word. -/
def ofU16 (word : UInt16) : List UInt8 := encode 2 word.toNat

/-- The four bytes of a 32-bit word. -/
def ofU32 (word : UInt32) : List UInt8 := encode 4 word.toNat

/-- The four bytes of a signed 32-bit word, in two's complement. -/
def ofI32 (word : Int32) : List UInt8 := ofU32 word.toUInt32

/-- The 16-bit word at the start of a byte string; missing bytes count as zero. -/
def toU16 (bytes : List UInt8) : UInt16 := UInt16.ofNat (value (bytes.take 2))

/-- The 32-bit word at the start of a byte string; missing bytes count as zero. -/
def toU32 (bytes : List UInt8) : UInt32 := UInt32.ofNat (value (bytes.take 4))

/-- The signed 32-bit word at the start of a byte string; missing bytes count as zero. -/
def toI32 (bytes : List UInt8) : Int32 := (toU32 bytes).toInt32

end LittleEndian

/-- The byte string `base` with `bytes` written over it from `offset` on. -/
def overlay (base : List UInt8) (offset : Nat) (bytes : List UInt8) : List UInt8 :=
  base.take offset ++ bytes ++ base.drop (offset + bytes.length)

/-- One byte of a fixed layout: a byte to write, or a gap that keeps the byte already there. -/
abbrev Cell := Option UInt8

/-- The cells of a layout settled over the bytes it is written onto: each gap keeps the old byte. -/
def settle (cells : List Cell) (old : List UInt8) : List UInt8 :=
  List.zipWith (fun cell byte => cell.getD byte) cells old

/-- The cells of bytes that are all written. -/
def written (bytes : List UInt8) : List Cell := bytes.map some

end Rtnetlink
