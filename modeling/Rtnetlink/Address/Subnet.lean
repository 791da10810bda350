import Rtnetlink.Address.Error
import Rtnetlink.Address.IPv4

/-!
# IPv4 subnets

A subnet is a network address and the length of its prefix.  The bits behind the prefix belong to
the hosts and are clear in the network address, so a subnet stands for the interval of addresses
from its network address to the one with all host bits set.
-/

namespace Rtnetlink

/-- The host bits behind a prefix: as many ones as the prefix is shorter than 32 bits. -/
def hostBits (prefixLength : Nat) : UInt32 := UInt32.ofNat (1 <<< (32 - prefixLength) - 1)

/-- A subnet whose network address has no host bits. -/
structure Subnet where
  /-- The network address. -/
  network : IPv4
  /-- The length of the prefix. -/
  prefixLength : Nat
  /-- A prefix is no longer than an address. -/
  prefixLength_le : prefixLength ≤ 32
  /-- The network address has no host bits. -/
  network_hostBits : network.bits &&& hostBits prefixLength = 0
deriving DecidableEq, Repr

namespace Subnet

theorem clear_hostBits (address hosts : UInt32) : (address &&& ~~~hosts) &&& hosts = 0 := by
  rw [UInt32.and_assoc, UInt32.and_comm (~~~hosts), UInt32.and_not_self, UInt32.and_zero]

/-- The subnet of an address.  Prefix lengths above 32 count as 32. -/
def ofAddress (address : IPv4) (prefixLength : Nat) : Subnet where
  network := ⟨address.bits &&& ~~~hostBits (min prefixLength 32)⟩
  prefixLength := min prefixLength 32
  prefixLength_le := Nat.min_le_right ..
  network_hostBits := clear_hostBits ..

/-- The host bits of the subnet, as an address. -/
def hostMask (s : Subnet) : IPv4 := ⟨hostBits s.prefixLength⟩

/-- The prefix bits of the subnet, as an address. -/
def netmask (s : Subnet) : IPv4 := ⟨~~~hostBits s.prefixLength⟩

/-- The first address. -/
def first (s : Subnet) : IPv4 := s.network

/-- The last address, which is the broadcast address. -/
def last (s : Subnet) : IPv4 := ⟨s.network.bits ||| hostBits s.prefixLength⟩

/-- The number of addresses. -/
def size (s : Subnet) : Nat := 1 <<< (32 - s.prefixLength)

/-- Whether the first and the last address are reserved.  Subnets of one or two addresses reserve
none. -/
def hasReserved (s : Subnet) : Bool := decide (2 < s.size)

/-- The number of addresses that hosts can use. -/
def usableSize (s : Subnet) : Nat := if s.hasReserved then s.size - 2 else s.size

/-- Whether an address belongs to the subnet. -/
def contains (s : Subnet) (address : IPv4) : Bool :=
  address.bits &&& ~~~hostBits s.prefixLength == s.network.bits

/-- The subnet in the notation with a slash. -/
def toChars (s : Subnet) : List Char :=
  s.network.toChars ++ '/' :: Text.Numeral.decimalDigits s.prefixLength

/-- The subnet in the notation with a slash, as text. -/
def toText (s : Subnet) : String := String.ofList s.toChars

/-- The length of a prefix: a decimal numeral of at most 32, with or without a plus sign. -/
def readPrefix? (digits : List Char) : Option Nat :=
  (Text.Numeral.readSigned? 10 digits).filter (· ≤ 32)

/-- Reads a subnet.  Host bits of the address are cleared.  The slash is looked for first, then the
address is read, then the prefix. -/
def parse (text : String) : Except AddressError Subnet :=
  let chars := text.toList
  if '/' ∈ chars then
    match IPv4.read? (chars.takeWhile (· ≠ '/')) with
    | none => .error (.invalidAddress text)
    | some address =>
      match readPrefix? ((chars.dropWhile (· ≠ '/')).drop 1) with
      | none => .error (.invalidPrefix text)
      | some prefixLength => .ok (ofAddress address prefixLength)
  else
    .error (.missingPrefix text)

end Subnet

end Rtnetlink
