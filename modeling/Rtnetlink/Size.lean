/-!
# Sizes as machine words

Lengths and positions are kept in 64 bits: a computed size starts over at zero behind the greatest
word.  Storage can be no larger than the positive signed words.
-/

namespace Rtnetlink.Size

/-- How many sizes there are. -/
def count : Nat := 18446744073709551616

/-- The greatest size of a piece of storage. -/
def greatest : Nat := 9223372036854775807

/-- A computed size as it is kept. -/
def wrap (n : Nat) : Nat := n % count

end Rtnetlink.Size
