import Mathlib.Algebra.Order.Group.Nat
import Mathlib.Tactic.Common
import Rtnetlink.Address.Subnet

/-!
# Subnets as intervals of addresses

A subnet is an aligned block: its addresses are the numbers from its first to its last, and which
block an address lies in is found by rounding its number down.  Here this is said in numbers, which
is how subnets that lie side by side, or one in the other, are compared.

* `Subnet.contains_iff`: an address belongs to a subnet if and only if it lies in the interval;
* `Subnet.first_ofAddress`: an address at the start of a block is the first of its subnet.
-/

namespace Rtnetlink

/-- Clearing some bits of a word and keeping only those bits takes the word apart. -/
lemma toNat_and_not_add_toNat_and (word bits : UInt32) :
    (word &&& ~~~bits).toNat + (word &&& bits).toNat = word.toNat := by
  have hapart : (word.toBitVec &&& ~~~bits.toBitVec) &&& (word.toBitVec &&& bits.toBitVec) = 0 := by
    ext i
    simp only [BitVec.getElem_and, BitVec.getElem_not]
    cases word.toBitVec[i] <;> cases bits.toBitVec[i] <;> simp
  have hjoined : (word.toBitVec &&& ~~~bits.toBitVec) ||| (word.toBitVec &&& bits.toBitVec)
      = word.toBitVec := by
    ext i
    simp only [BitVec.getElem_or, BitVec.getElem_and, BitVec.getElem_not]
    cases word.toBitVec[i] <;> cases bits.toBitVec[i] <;> simp
  have hsum := BitVec.toNat_add_of_and_eq_zero hapart
  rw [BitVec.add_eq_or_of_and_eq_zero _ _ hapart, hjoined] at hsum
  exact hsum.symm

namespace IPv4

lemma toNat_lt (a : IPv4) : a.toNat < 2 ^ 32 := a.bits.toNat_lt

lemma toNat_injective : Function.Injective toNat := by
  rintro ⟨a⟩ ⟨b⟩ h
  exact congrArg IPv4.mk (UInt32.toNat_inj.1 h)

lemma toNat_ofNat {n : Nat} (h : n < 2 ^ 32) : (ofNat n).toNat = n := Nat.mod_eq_of_lt h

end IPv4

namespace Subnet

variable {s : Subnet}

/-! ## The size -/

lemma size_eq (s : Subnet) : s.size = 2 ^ (32 - s.prefixLength) := Nat.one_shiftLeft _

lemma size_pos (s : Subnet) : 0 < s.size := by
  rw [size_eq]
  exact Nat.two_pow_pos _

lemma toNat_hostMask (s : Subnet) : s.hostMask.toNat = s.size - 1 := by
  have hsmall : s.size ≤ UInt32.size := by
    rw [size_eq]
    exact Nat.pow_le_pow_right (by decide) (Nat.sub_le ..)
  have hpos := s.size_pos
  simp only [UInt32.size] at hsmall
  change (s.size - 1) % 4294967296 = s.size - 1
  omega

/-- The interval starts at a multiple of its size. -/
lemma size_dvd_first (s : Subnet) : s.size ∣ s.first.toNat := by
  have hclear : s.network.bits.toNat &&& (s.size - 1) = 0 := by
    rw [← toNat_hostMask, IPv4.toNat, hostMask, ← UInt32.toNat_and, s.network_hostBits]
    rfl
  rw [size_eq, Nat.and_two_pow_sub_one_eq_mod, ← size_eq] at hclear
  exact Nat.dvd_of_mod_eq_zero hclear

/-- The last address is the size behind the first, less one. -/
lemma toNat_last (s : Subnet) : s.last.toNat = s.first.toNat + (s.size - 1) := by
  obtain ⟨blocks, hstart⟩ := s.size_dvd_first
  -- the network address and the host bits have no bit in common, so joining them adds them
  have hbelow : s.size - 1 < s.size := Nat.sub_lt s.size_pos (by decide)
  have hjoin : s.size * blocks + (s.size - 1) = s.size * blocks ||| (s.size - 1) := by
    rw [size_eq] at hbelow ⊢
    exact Nat.two_pow_add_eq_or_of_lt hbelow blocks
  rw [hstart, hjoin, ← hstart, ← toNat_hostMask]
  exact UInt32.toNat_or ..

lemma toNat_last_add_one (s : Subnet) : s.last.toNat + 1 = s.first.toNat + s.size := by
  have := s.size_pos
  rw [toNat_last]
  omega

/-! ## Blocks -/

lemma toNat_and_hostBits (s : Subnet) (word : UInt32) :
    (word &&& hostBits s.prefixLength).toNat = word.toNat % s.size := by
  have hmask : (hostBits s.prefixLength).toNat = s.size - 1 := s.toNat_hostMask
  rw [UInt32.toNat_and, hmask, size_eq, Nat.and_two_pow_sub_one_eq_mod]

/-- Clearing the host bits of an address rounds its number down. -/
lemma toNat_and_not_hostBits (s : Subnet) (word : UInt32) :
    (word &&& ~~~hostBits s.prefixLength).toNat = word.toNat - word.toNat % s.size := by
  have hparts := toNat_and_not_add_toNat_and word (hostBits s.prefixLength)
  rw [toNat_and_hostBits] at hparts
  omega

/-- An address belongs to a subnet if and only if it lies between its first and its last. -/
lemma contains_iff (s : Subnet) (a : IPv4) :
    s.contains a = true ↔ s.first.toNat ≤ a.toNat ∧ a.toNat < s.first.toNat + s.size := by
  have hrounded : s.contains a = true ↔ a.toNat - a.toNat % s.size = s.first.toNat := by
    rw [contains, beq_iff_eq, ← UInt32.toNat_inj, toNat_and_not_hostBits]
    rfl
  have hmod := Nat.mod_lt a.toNat s.size_pos
  have hle := Nat.mod_le a.toNat s.size
  obtain ⟨blocks, hfirst⟩ := s.size_dvd_first
  rw [hrounded, hfirst]
  constructor
  · intro h
    omega
  · rintro ⟨hlow, hhigh⟩
    -- the address lies in block number `blocks`
    have hblock : a.toNat / s.size = blocks := by
      refine Nat.div_eq_of_lt_le ?_ ?_
      · rwa [Nat.mul_comm]
      · rwa [Nat.succ_mul, Nat.mul_comm]
    have hsplit := Nat.div_add_mod a.toNat s.size
    rw [hblock] at hsplit
    omega

lemma size_ofAddress (a : IPv4) {bits : Nat} (h : bits ≤ 32) :
    (ofAddress a (32 - bits)).size = 2 ^ bits := by
  have hbits : 32 - min (32 - bits) 32 = bits := by omega
  rw [size_eq, ofAddress, hbits]

/-- An address at the start of a block is the first address of its subnet. -/
lemma first_ofAddress {a : IPv4} {bits : Nat} (h : bits ≤ 32) (haligned : 2 ^ bits ∣ a.toNat) :
    (ofAddress a (32 - bits)).first.toNat = a.toNat := by
  have hrounded := toNat_and_not_hostBits (ofAddress a (32 - bits)) a.bits
  rw [size_ofAddress a h] at hrounded
  have hstart : a.bits.toNat % 2 ^ bits = 0 := Nat.mod_eq_zero_of_dvd haligned
  rw [hstart, Nat.sub_zero] at hrounded
  exact hrounded

end Subnet

end Rtnetlink
