import Rtnetlink.Address.Subnet

/-!
# Splitting a subnet

A subnet is split into a given number of smaller ones.  Their common size is the greatest power of
two that fits as often as needed; what is left over goes to the first fragments, which are twice
that size.
-/

namespace Rtnetlink

/-- The fragments of a subnet that have not been handed out. -/
structure Fragments where
  /-- Where the next fragment starts, as a number. -/
  next : Nat
  /-- The prefix length of a fragment of the common size. -/
  smallPrefix : Nat
  /-- How many fragments of twice the size come first. -/
  largeLeft : Nat
  /-- How many fragments are left in all. -/
  left : Nat
deriving DecidableEq, Repr

namespace Fragments

/-- The split of a subnet into `count` fragments.  There is none for no fragments, nor for more
fragments than addresses. -/
def ofSubnet? (s : Subnet) (count : Nat) : Option Fragments :=
  if count = 0 ∨ s.size < count then
    none
  else
    -- the common size is the greatest power of two of which `count` fit
    let smallBits := Nat.log2 (s.size / count)
    let smallSize := 1 <<< smallBits
    some {
      next := s.network.toNat
      smallPrefix := 32 - smallBits
      largeLeft := (s.size - smallSize * count) / smallSize
      left := count }

/-- The next fragment and the fragments after it. -/
def step (f : Fragments) : Option Subnet × Fragments :=
  match f.left with
  | 0 => (none, f)
  | left + 1 =>
    let prefixLength := if 0 < f.largeLeft then f.smallPrefix - 1 else f.smallPrefix
    let fragment := Subnet.ofAddress (IPv4.ofNat f.next) prefixLength
    (some fragment,
      { f with next := f.next + fragment.size, largeLeft := f.largeLeft - 1, left })

/-- Every step that yields a fragment uses one up. -/
theorem left_of_step {f rest : Fragments} {fragment : Subnet}
    (h : f.step = (some fragment, rest)) : rest.left + 1 = f.left := by
  unfold step at h
  split at h
  · cases h
  · next left hleft =>
    cases h
    exact hleft.symm

/-- The fragments that are left, in order. -/
def toList (f : Fragments) : List Subnet :=
  match h : f.step with
  | (some fragment, rest) =>
    have := left_of_step h
    fragment :: toList rest
  | (none, _) => []
termination_by f.left

end Fragments

end Rtnetlink
