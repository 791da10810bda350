import Rtnetlink.Text.Numeral
import Rtnetlink.Text.Split

/-!
# IPv4 addresses

An address is a 32-bit number; its text is the dotted quad of its four octets, most significant
first.  A quad is read strictly: four decimal numbers of at most 255, without leading zeros, with
single dots between them.
-/

namespace Rtnetlink

/-- An IPv4 address. -/
structure IPv4 where
  /-- The address as a number. -/
  bits : UInt32
deriving DecidableEq, Repr

namespace IPv4

/-- The address 0.0.0.0, which stands for no address. -/
def unspecified : IPv4 := ⟨0⟩

/-- Whether the address stands for no address. -/
def isUnspecified (a : IPv4) : Bool := a == unspecified

/-- The address of a number, which is taken modulo the number of addresses. -/
def ofNat (n : Nat) : IPv4 := ⟨UInt32.ofNat n⟩

/-- The address as a natural number. -/
def toNat (a : IPv4) : Nat := a.bits.toNat

/-- The address of four octets, the most significant first. -/
def ofOctets (a b c d : Nat) : IPv4 := ofNat (((a * 256 + b) * 256 + c) * 256 + d)

/-- The four octets, the most significant first. -/
def octets (a : IPv4) : List UInt8 :=
  [UInt8.ofNat (a.toNat >>> 24), UInt8.ofNat (a.toNat >>> 16), UInt8.ofNat (a.toNat >>> 8),
    UInt8.ofNat a.toNat]

/-- The dotted quad of an address. -/
def toChars (a : IPv4) : List Char :=
  List.intercalate ['.'] (a.octets.map fun octet => Text.Numeral.decimalDigits octet.toNat)

/-- The dotted quad of an address, as text. -/
def toText (a : IPv4) : String := String.ofList a.toChars

/-- The value of one number of a dotted quad. -/
def octet? (digits : List Char) : Option Nat :=
  if 3 < digits.length ∨ (digits.head? = some '0' ∧ digits ≠ ['0']) then
    none
  else
    (Text.Numeral.read? 10 digits).filter (· ≤ 255)

/-- Reads a dotted quad. -/
def read? (text : List Char) : Option IPv4 :=
  match Text.splitOn '.' text with
  | [a, b, c, d] => do
    let a ← octet? a
    let b ← octet? b
    let c ← octet? c
    let d ← octet? d
    pure (ofOctets a b c d)
  | _ => none

end IPv4

end Rtnetlink
