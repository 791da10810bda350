/-!
# Numerals: reading and writing decimal and hexadecimal numbers

A numeral is a non-empty row of ASCII digits of its base.  Some texts allow a plus sign in front of
it.  Leading zeros are read unless a text forbids them.
-/

namespace Rtnetlink.Text.Numeral

/-- The value of a digit of any base up to sixteen. -/
def digit? (c : Char) : Option Nat :=
  if '0' ≤ c ∧ c ≤ '9' then some (c.toNat - '0'.toNat)
  else if 'a' ≤ c ∧ c ≤ 'f' then some (c.toNat - 'a'.toNat + 10)
  else if 'A' ≤ c ∧ c ≤ 'F' then some (c.toNat - 'A'.toNat + 10)
  else none

/-- The value of a digit of the given base. -/
def digitOf? (base : Nat) (c : Char) : Option Nat :=
  (digit? c).filter (· < base)

/-- The number that a row of digits goes on to after `start`. -/
def readFrom? (base : Nat) : (start : Nat) → List Char → Option Nat
  | start, [] => some start
  | start, c :: rest => (digitOf? base c).bind fun d => readFrom? base (start * base + d) rest

/-- The number a numeral stands for. -/
def read? (base : Nat) : List Char → Option Nat
  | [] => none
  | digits => readFrom? base 0 digits

/-- The number of a numeral that may have a plus sign. -/
def readSigned? (base : Nat) : List Char → Option Nat
  | '+' :: digits => read? base digits
  | digits => read? base digits

/-- The hexadecimal digit for a value below sixteen, in lower case. -/
def hexDigit (value : Nat) : Char :=
  if value < 10 then Char.ofNat ('0'.toNat + value) else Char.ofNat ('a'.toNat + (value - 10))

/-- The hexadecimal numeral of a number, without leading zeros. -/
def hexDigits (n : Nat) : List Char :=
  if n < 16 then [hexDigit n] else hexDigits (n / 16) ++ [hexDigit (n % 16)]

/-- The two hexadecimal digits of a byte. -/
def hexByte (byte : UInt8) : List Char :=
  [hexDigit (byte.toNat / 16), hexDigit (byte.toNat % 16)]

/-- The decimal numeral of a number, without leading zeros. -/
def decimalDigits (n : Nat) : List Char :=
  if n < 10 then [hexDigit n] else decimalDigits (n / 10) ++ [hexDigit (n % 10)]

end Rtnetlink.Text.Numeral
