import Rtnetlink.Size
import Rtnetlink.Wire.Protocol

/-!
# Alignment and malformed input

Messages and attributes are padded to four bytes.  A decoder that meets a length it cannot honour
reports it as a `Malformed` value.
-/

namespace Rtnetlink

/-- A length rounded up to the next multiple of four. -/
def align (length : Nat) : Nat := (length + 3) / 4 * 4

/-- The same kept as a size, where rounding up past the last multiple of four starts over at
zero. -/
def alignWord (length : Nat) : Nat := Size.wrap (align length)

theorem le_align (length : Nat) : length ≤ align length := by
  unfold align
  omega

/-- Why bytes cannot be decoded. -/
inductive Malformed where
  /-- Fewer bytes are there than a fixed part or a length field needs. -/
  | truncated (needed available : Nat)
  /-- A length field is smaller than the header it belongs to. -/
  | invalidLength (length : Nat)
deriving DecidableEq, Repr

/-- The text of a decoding error. -/
def Malformed.message : Malformed → String
  | .truncated needed available =>
    "buffer too short: needed " ++ toString needed ++ " bytes, " ++ toString available
      ++ " available"
  | .invalidLength length => "invalid length field: " ++ toString length

end Rtnetlink
