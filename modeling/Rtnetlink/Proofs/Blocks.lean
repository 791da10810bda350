import Mathlib.Data.Set.Card
import Mathlib.Order.Interval.Finset.Nat
import Rtnetlink.Proofs.Intervals

/-!
# Subnets as aligned blocks

The subnets of one prefix length cut the addresses into blocks of one size, and an address lies in
exactly one of them, which is its own subnet of that prefix length.  A block of a greater size is a
row of blocks of a smaller one, so two blocks of any sizes lie one in the other or side by side.

* `Subnet.contains_iff_div`: an address lies in a block if and only if dividing by the size gives
  the number of the block;
* `Subnet.nested_or_apart`: of two subnets, one lies in the other, or they have no address in
  common;
* `Subnet.ofAddress_views_agree`: the masks, the bounds, the size and the membership of a subnet all
  say the same.
-/

namespace Rtnetlink

/-- So many addresses have a number in an interval. -/
lemma IPv4.ncard_toNat_mem_Ico {low high : Nat} (h : high ≤ 2 ^ 32) :
    {a : IPv4 | low ≤ a.toNat ∧ a.toNat < high}.ncard = high - low := by
  have himage : toNat '' {a : IPv4 | low ≤ a.toNat ∧ a.toNat < high}
      = (Finset.Ico low high : Set Nat) := by
    ext n
    simp only [Set.mem_image, Set.mem_ofPred_eq, Finset.coe_Ico, Set.mem_Ico]
    constructor
    · rintro ⟨a, ha, rfl⟩
      exact ha
    · intro hn
      have hofNat : (ofNat n).toNat = n := toNat_ofNat (Nat.lt_of_lt_of_le hn.2 h)
      exact ⟨ofNat n, by rwa [hofNat], hofNat⟩
  rw [← Set.ncard_image_of_injective _ toNat_injective, himage, Set.ncard_coe_finset, Nat.card_Ico]

namespace Subnet

variable {s t : Subnet} {a b : IPv4}

/-! ## Blocks of one size -/

lemma first_add_size_le (s : Subnet) : s.first.toNat + s.size ≤ 2 ^ 32 := by
  have hlast : s.last.toNat < 2 ^ 32 := s.last.toNat_lt
  have hstop := s.toNat_last_add_one
  omega

/-- An address lies in the block whose number is its own number divided by the size. -/
lemma contains_iff_div (s : Subnet) (a : IPv4) :
    s.contains a = true ↔ a.toNat / s.size = s.first.toNat / s.size := by
  have hsize := s.size_pos
  obtain ⟨block, hfirst⟩ := s.size_dvd_first
  rw [contains_iff, hfirst, Nat.mul_div_cancel_left block hsize, Nat.div_eq_iff hsize,
    Nat.mul_comm block]
  omega

/-- The block of a given size that an address lies in is its own subnet of that prefix length. -/
lemma ofAddress_eq_iff : ofAddress a s.prefixLength = s ↔ s.contains a = true := by
  obtain ⟨⟨network⟩, prefixLength, hle, hclear⟩ := s
  simp [ofAddress, contains, Nat.min_eq_left hle]

/-! ## Blocks of two sizes -/

lemma size_dvd_size (h : s.prefixLength ≤ t.prefixLength) : t.size ∣ s.size := by
  rw [size_eq, size_eq]
  exact Nat.pow_dvd_pow 2 (by omega)

/-- A smaller block that has an address in common with a larger one lies in it. -/
lemma contains_of_contains (h : s.prefixLength ≤ t.prefixLength) (hs : s.contains a = true)
    (ht : t.contains a = true) (hb : t.contains b = true) : s.contains b = true := by
  obtain ⟨count, hsize⟩ := size_dvd_size h
  rw [contains_iff_div] at hs ht hb ⊢
  rw [← hs, hsize, ← Nat.div_div_eq_div_mul, ← Nat.div_div_eq_div_mul, ht, hb]

/-- Of two subnets, one contains every address of the other, or they have no address in common. -/
lemma nested_or_apart (s t : Subnet) :
    (∀ a, t.contains a = true → s.contains a = true)
      ∨ (∀ a, s.contains a = true → t.contains a = true)
      ∨ ∀ a, ¬ (s.contains a = true ∧ t.contains a = true) := by
  by_cases hcommon : ∃ a, s.contains a = true ∧ t.contains a = true
  · obtain ⟨a, hs, ht⟩ := hcommon
    rcases Nat.le_total s.prefixLength t.prefixLength with hle | hle
    · exact .inl fun b hb => contains_of_contains hle hs ht hb
    · exact .inr (.inl fun b hb => contains_of_contains hle ht hs hb)
  · exact .inr (.inr (not_exists.1 hcommon))

/-! ## Counting addresses -/

lemma ncard_contains (s : Subnet) : {a | s.contains a = true}.ncard = s.size := by
  simp only [contains_iff]
  rw [IPv4.ncard_toNat_mem_Ico s.first_add_size_le, Nat.add_sub_cancel_left]

/-- The addresses between the first and the last. -/
lemma ncard_between (s : Subnet) :
    {a | s.contains a = true ∧ a ≠ s.first ∧ a ≠ s.last}.ncard = s.size - 2 := by
  have hstop := s.toNat_last_add_one
  have hlast := s.first_add_size_le
  have hsame : {a | s.contains a = true ∧ a ≠ s.first ∧ a ≠ s.last}
      = {a | s.first.toNat + 1 ≤ a.toNat ∧ a.toNat < s.last.toNat} := by
    ext a
    simp only [Set.mem_ofPred_eq, contains_iff, ne_eq, ← IPv4.toNat_injective.eq_iff]
    omega
  rw [hsame, IPv4.ncard_toNat_mem_Ico (by omega)]
  omega

/-- The usable addresses are those between the first and the last, where there are any, and all of
them otherwise. -/
lemma usableSize_eq_ncard (s : Subnet) :
    s.usableSize = {a | s.contains a = true ∧ (2 < s.size → a ≠ s.first ∧ a ≠ s.last)}.ncard := by
  unfold usableSize hasReserved
  by_cases hlarge : 2 < s.size
  · simp only [hlarge, decide_true, if_true, forall_const, ncard_between]
  · simp only [hlarge, decide_false, Bool.false_eq_true, if_false, false_imp_iff, and_true,
      ncard_contains]

/-! ## The views of a subnet -/

/-- Clearing some bits of a word and then setting them is setting them. -/
lemma and_not_or_self (word bits : UInt32) : (word &&& ~~~bits) ||| bits = word ||| bits := by
  apply UInt32.toBitVec_inj.1
  ext i
  simp only [UInt32.toBitVec_or, UInt32.toBitVec_and, UInt32.toBitVec_not, BitVec.getElem_or,
    BitVec.getElem_and, BitVec.getElem_not]
  cases word.toBitVec[i] <;> cases bits.toBitVec[i] <;> rfl

/-- What the subnet of an address is, seen from each side. -/
structure IsBlockOf (s : Subnet) (address : IPv4) (prefixLength : Nat) : Prop where
  /-- Prefix lengths above 32 count as 32. -/
  prefixLength_eq : s.prefixLength = min prefixLength 32
  /-- The size is given by the prefix. -/
  size_eq : s.size = 2 ^ (32 - s.prefixLength)
  /-- The masks are complements. -/
  hostMask_eq : s.hostMask.bits = ~~~s.netmask.bits
  /-- The host mask is one less than the size. -/
  toNat_hostMask : s.hostMask.toNat + 1 = s.size
  /-- The first address is the address without its host bits. -/
  first_eq : s.first.bits = address.bits &&& s.netmask.bits
  /-- The last address is the address with all host bits. -/
  last_eq : s.last.bits = address.bits ||| s.hostMask.bits
  /-- The block is aligned. -/
  size_dvd_first : s.size ∣ s.first.toNat
  /-- The bounds are as far apart as the size says. -/
  toNat_last : s.first.toNat ≤ s.last.toNat ∧ s.last.toNat - s.first.toNat + 1 = s.size
  /-- The addresses are those between the bounds. -/
  contains_iff : ∀ a, s.contains a = true ↔ s.first.toNat ≤ a.toNat ∧ a.toNat ≤ s.last.toNat
  /-- They are those whose own subnet it is. -/
  contains_iff_ofAddress : ∀ a, s.contains a = true ↔ ofAddress a s.prefixLength = s
  /-- The usable addresses are all but the first and the last, where there are more than two. -/
  usableSize_eq :
    s.usableSize = {a | s.contains a = true ∧ (2 < s.size → a ≠ s.first ∧ a ≠ s.last)}.ncard

/-- **A subnet is an aligned block, from whichever side it is looked at.**  The subnet of an address
has the prefix that was asked for, as far as there is one, and its masks, its bounds, its size, its
addresses and the number of those that can be used agree.  Of two subnets, one contains every
address of the other, or they have no address in common. -/
theorem ofAddress_views_agree (address : IPv4) (prefixLength : Nat) :
    (ofAddress address prefixLength).IsBlockOf address prefixLength ∧
      ∀ s t : Subnet,
        (∀ a, t.contains a = true → s.contains a = true)
          ∨ (∀ a, s.contains a = true → t.contains a = true)
          ∨ ∀ a, ¬ (s.contains a = true ∧ t.contains a = true) := by
  refine ⟨?_, nested_or_apart⟩
  have hstop := toNat_last_add_one (ofAddress address prefixLength)
  have hsize := size_pos (ofAddress address prefixLength)
  exact {
    prefixLength_eq := rfl
    size_eq := size_eq _
    hostMask_eq := UInt32.not_not.symm
    toNat_hostMask := by rw [toNat_hostMask]; omega
    first_eq := rfl
    last_eq := and_not_or_self ..
    size_dvd_first := size_dvd_first _
    toNat_last := by omega
    contains_iff := fun a => by rw [contains_iff]; omega
    contains_iff_ofAddress := fun _ => ofAddress_eq_iff.symm
    usableSize_eq := usableSize_eq_ncard _ }

-- the subnet of all addresses, where the network mask is zero, and a subnet of one address
example : (ofAddress (.ofOctets 10 0 0 1) 0).size = 2 ^ 32
    ∧ (ofAddress (.ofOctets 10 0 0 1) 0).usableSize = 2 ^ 32 - 2
    ∧ (ofAddress (.ofOctets 10 0 0 1) 200).usableSize = 1 := by
  decide

end Subnet

end Rtnetlink
