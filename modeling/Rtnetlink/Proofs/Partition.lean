import Rtnetlink.Address.Fragments
import Rtnetlink.Proofs.Cursor
import Rtnetlink.Proofs.Intervals

/-!
# Fragments tile the subnet they are split from

Write `2 ^ bits` for the common size of the fragments.  It is the greatest power of two of which
`count` fit, so more than half of the fragments that would fit in at that size are wanted, and
doubling the first ones is enough to use up what is left over.  The large fragments come first
because a subnet starts at a multiple of its size: a large fragment would be out of place behind an
odd number of small ones, and its start would be rounded down into its neighbour.

* `Subnet.Tiles`: subnets that lie side by side, without gaps;
* `Fragments.Planned`: what holds of a split at every step;
* `Fragments.split_is_exact`: a split is refused only if there cannot be any, and is an exact
  partition otherwise.
-/

namespace Rtnetlink

/-! ## Subnets side by side -/

/-- Subnets that lie side by side, each right behind the one before it: the first one starts at the
given address, and behind the last one comes the address `stop`. -/
inductive Subnet.Tiles (stop : Nat) : Nat → List Subnet → Prop
  | nil : Tiles stop stop []
  | cons {t : Subnet} {ts : List Subnet} :
      Tiles stop (t.last.toNat + 1) ts → Tiles stop t.first.toNat (t :: ts)

namespace Subnet.Tiles

variable {start stop : Nat} {ts : List Subnet}

lemma start_le (h : Tiles stop start ts) : start ≤ stop := by
  induction h with
  | nil => exact Nat.le_refl stop
  | @cons t _ _ ih =>
    rw [toNat_last_add_one] at ih
    omega

/-- Every address in between lies in exactly one of the subnets, and no other address in any. -/
lemma countP_contains (h : Tiles stop start ts) (a : IPv4) :
    ts.countP (·.contains a) = if start ≤ a.toNat ∧ a.toNat < stop then 1 else 0 := by
  induction h with
  | nil =>
    rw [if_neg (by omega)]
    rfl
  | @cons t _ hrest ih =>
    have hstop := hrest.start_le
    have hsize := t.size_pos
    have hin := t.contains_iff a
    rw [toNat_last_add_one] at ih hstop
    rw [List.countP_cons, ih]
    by_cases hcontains : t.contains a = true
    · obtain ⟨hlow, hhigh⟩ := hin.1 hcontains
      rw [if_neg (by omega), if_pos hcontains, if_pos (by omega)]
    · have hout : ¬(t.first.toNat ≤ a.toNat ∧ a.toNat < t.first.toNat + t.size) :=
        fun h => hcontains (hin.2 h)
      rw [if_neg hcontains, Nat.add_zero]
      split <;> split <;> omega

end Subnet.Tiles

/-! ## The sizes -/

section

variable {count : Nat} {s : Subnet}

/-- How many fragments of the common size would fit. -/
lemma exists_slots (hcount : 0 < count) (hfits : count ≤ s.size) :
    ∃ slots, s.size = 2 ^ Nat.log2 (s.size / count) * 2 ^ slots
      ∧ count ≤ 2 ^ slots ∧ 2 ^ slots < 2 * count
      ∧ Nat.log2 (s.size / count) + slots ≤ 32 := by
  have hquotient : s.size / count ≠ 0 := (Nat.div_pos hfits hcount).ne'
  have hlow : 2 ^ Nat.log2 (s.size / count) * count ≤ s.size :=
    (Nat.le_div_iff_mul_le hcount).1 (Nat.log2_self_le hquotient)
  have hhigh : s.size < 2 ^ (Nat.log2 (s.size / count) + 1) * count :=
    (Nat.div_lt_iff_lt_mul hcount).1 Nat.lt_log2_self
  generalize Nat.log2 (s.size / count) = bits at hlow hhigh ⊢
  have hbits : bits ≤ 32 - s.prefixLength := by
    have hpow : 2 ^ bits ≤ 2 ^ (32 - s.prefixLength) := by
      rw [← Subnet.size_eq]
      exact (Nat.le_mul_of_pos_right _ hcount).trans hlow
    exact (Nat.pow_le_pow_iff_right (by decide)).1 hpow
  obtain ⟨slots, hslots⟩ := Nat.exists_eq_add_of_le hbits
  have hsize : s.size = 2 ^ bits * 2 ^ slots := by rw [Subnet.size_eq, hslots, Nat.pow_add]
  refine ⟨slots, hsize, ?_, ?_, by omega⟩
  · rw [hsize] at hlow
    exact Nat.le_of_mul_le_mul_left hlow (Nat.two_pow_pos bits)
  · rw [hsize, Nat.pow_succ, Nat.mul_assoc] at hhigh
    exact Nat.lt_of_mul_lt_mul_left hhigh

/-- How many more fragments of the common size would fit into what is left over. -/
lemma leftover_div {bits slots : Nat} (hsize : s.size = 2 ^ bits * 2 ^ slots) :
    (s.size - 2 ^ bits * count) / 2 ^ bits = 2 ^ slots - count := by
  rw [hsize, ← Nat.mul_sub, Nat.mul_div_cancel_left _ (Nat.two_pow_pos bits)]

end

namespace Fragments

variable {bits stop : Nat} {f : Fragments}

/-! ## One fragment -/

/-- A fragment that may start where it is to start is not moved. -/
lemma step_eq {left : Nat} (hleft : f.left = left + 1) (hbits : bits ≤ 32)
    (hlength : (if 0 < f.largeLeft then f.smallPrefix - 1 else f.smallPrefix) = 32 - bits)
    (hnext : f.next < 2 ^ 32) (haligned : 2 ^ bits ∣ f.next) :
    ∃ fragment, f.step = (some fragment,
        { f with next := f.next + 2 ^ bits, largeLeft := f.largeLeft - 1, left })
      ∧ fragment.first.toNat = f.next ∧ fragment.size = 2 ^ bits := by
  have hstart := IPv4.toNat_ofNat hnext
  have hsize := Subnet.size_ofAddress (IPv4.ofNat f.next) hbits
  refine ⟨Subnet.ofAddress (IPv4.ofNat f.next) (32 - bits), ?_, ?_, hsize⟩
  · simp only [step, hleft, hlength, hsize]
  · rw [← hstart] at haligned
    exact (Subnet.first_ofAddress hbits haligned).trans hstart

/-- A split that is on its way: small fragments have `bits` host bits, large ones one more, and what
is left ends at `stop`. -/
structure Planned (bits stop : Nat) (f : Fragments) : Prop where
  smallPrefix : f.smallPrefix = 32 - bits
  bits_le : bits ≤ 32
  stop_le : stop ≤ 2 ^ 32
  largeLeft_le : f.largeLeft ≤ f.left
  /-- What is left is used up. -/
  reach : f.next + 2 ^ bits * (f.left + f.largeLeft) = stop
  /-- A small fragment can start here. -/
  aligned : 2 ^ bits ∣ f.next
  /-- A large fragment can start here, as long as there are any. -/
  aligned_large : 0 < f.largeLeft → bits < 32 ∧ 2 ^ (bits + 1) ∣ f.next

lemma Planned.next_lt (h : f.Planned bits stop) (hleft : 0 < f.left) : f.next < 2 ^ 32 := by
  have hreach := h.reach
  have hstop := h.stop_le
  have hpos : 0 < 2 ^ bits * (f.left + f.largeLeft) :=
    Nat.mul_pos (Nat.two_pow_pos bits) (by omega)
  omega

/-- The next fragment starts right where the one before it ended, and the split goes on behind. -/
lemma Planned.step (h : f.Planned bits stop) {left : Nat} (hleft : f.left = left + 1) :
    ∃ fragment rest, f.step = (some fragment, rest)
      ∧ fragment.first.toNat = f.next ∧ rest.next = fragment.last.toNat + 1
      ∧ fragment.size = (if 0 < f.largeLeft then 2 * 2 ^ bits else 2 ^ bits)
      ∧ rest.largeLeft = f.largeLeft - 1 ∧ rest.left = left
      ∧ rest.Planned bits stop := by
  have hnext := h.next_lt (by omega)
  have hreach := h.reach
  have hlarge := h.largeLeft_le
  rcases Nat.eq_zero_or_pos f.largeLeft with hnone | hsome
  · obtain ⟨fragment, hstep, hfirst, hsize⟩ :=
      step_eq hleft h.bits_le (by rw [if_neg (by omega), h.smallPrefix]) hnext h.aligned
    refine ⟨fragment, _, hstep, hfirst, ?_, ?_, rfl, rfl, ?_⟩
    · rw [Subnet.toNat_last_add_one, hfirst, hsize]
    · rw [hsize, if_neg (by omega)]
    · rw [hleft, hnone] at hreach
      exact {
        smallPrefix := h.smallPrefix
        bits_le := h.bits_le
        stop_le := h.stop_le
        largeLeft_le := by
          show f.largeLeft - 1 ≤ left
          omega
        reach := by
          show f.next + 2 ^ bits + 2 ^ bits * (left + (f.largeLeft - 1)) = stop
          rw [hnone, ← hreach, Nat.mul_add, Nat.mul_add, Nat.mul_add]
          omega
        aligned := Nat.dvd_add h.aligned (Nat.dvd_refl _)
        aligned_large := by
          intro hpos
          have : 0 < f.largeLeft - 1 := hpos
          omega }
  · obtain ⟨hlt, haligned⟩ := h.aligned_large hsome
    obtain ⟨fragment, hstep, hfirst, hsize⟩ :=
      step_eq hleft hlt (by rw [if_pos hsome, h.smallPrefix, Nat.sub_sub]) hnext haligned
    refine ⟨fragment, _, hstep, hfirst, ?_, ?_, rfl, rfl, ?_⟩
    · rw [Subnet.toNat_last_add_one, hfirst, hsize]
    · rw [hsize, if_pos hsome, Nat.pow_succ, Nat.mul_comm]
    · obtain ⟨large, hlarge⟩ := Nat.exists_eq_add_of_lt hsome
      rw [hleft, hlarge] at hreach
      exact {
        smallPrefix := h.smallPrefix
        bits_le := h.bits_le
        stop_le := h.stop_le
        largeLeft_le := by
          show f.largeLeft - 1 ≤ left
          omega
        reach := by
          show f.next + 2 ^ (bits + 1) + 2 ^ bits * (left + (f.largeLeft - 1)) = stop
          rw [hlarge, ← hreach, Nat.pow_succ]
          simp only [Nat.mul_add, Nat.zero_add, Nat.add_sub_cancel]
          omega
        aligned := Nat.dvd_add h.aligned (Nat.pow_dvd_pow 2 (Nat.le_succ bits))
        aligned_large := by
          intro _
          exact ⟨hlt, Nat.dvd_add haligned (Nat.dvd_refl _)⟩ }

/-! ## All fragments -/

lemma toList_eq_cons {rest : Fragments} {fragment : Subnet} (h : f.step = (some fragment, rest)) :
    f.toList = fragment :: rest.toList := by
  rw [toList]
  split
  · next hfound =>
    cases h.symm.trans hfound
    rfl
  · next hend => cases h.symm.trans hend

/-- As many fragments come as are said to be left. -/
@[simp] lemma length_toList (f : Fragments) : f.toList.length = f.left := by
  fun_induction toList f with
  | case1 f fragment rest h _ ih =>
    rw [List.length_cons, ih]
    exact left_of_step h
  | case2 f rest h =>
    unfold step at h
    split at h
    · next hleft => simp [hleft]
    · cases h

lemma step_of_left_eq_zero (hleft : f.left = 0) : f.step = (none, f) := by
  simp only [step, hleft]

lemma toList_of_left_eq_zero (hleft : f.left = 0) : f.toList = [] :=
  List.eq_nil_of_length_eq_zero ((length_toList f).trans hleft)

/-- The list of the fragments is what the calls yield. -/
lemma yields : Cursor.Yields step toList where
  item := toList_eq_cons
  none := by
    intro f rest hstep
    rcases hleft : f.left with - | left
    · rw [step_of_left_eq_zero hleft] at hstep
      cases hstep
      exact ⟨toList_of_left_eq_zero hleft, toList_of_left_eq_zero hleft⟩
    · simp only [step, hleft] at hstep
      cases hstep

/-- The fragments fill the space that is left. -/
lemma Planned.tiles (h : f.Planned bits stop) : Subnet.Tiles stop f.next f.toList := by
  -- by the number of fragments left; the plan is what each step hands on
  generalize hleft : f.left = left
  induction left generalizing f with
  | zero =>
    have hend : f.next = stop := by
      have hreach := h.reach
      have hnone : f.largeLeft = 0 := by
        have := h.largeLeft_le
        omega
      rwa [hleft, hnone] at hreach
    rw [toList_of_left_eq_zero hleft, hend]
    exact .nil
  | succ left ih =>
    obtain ⟨fragment, rest, hstep, hfirst, hnext, -, -, hrest, hplanned⟩ := h.step hleft
    rw [toList_eq_cons hstep, ← hfirst]
    refine .cons ?_
    rw [← hnext]
    exact ih hplanned hrest

/-- The large fragments come first. -/
lemma Planned.map_size (h : f.Planned bits stop) :
    f.toList.map Subnet.size
      = List.replicate f.largeLeft (2 * 2 ^ bits)
        ++ List.replicate (f.left - f.largeLeft) (2 ^ bits) := by
  generalize hleft : f.left = left
  induction left generalizing f with
  | zero =>
    have hnone : f.largeLeft = 0 := by
      have := h.largeLeft_le
      omega
    rw [toList_of_left_eq_zero hleft, hnone]
    rfl
  | succ left ih =>
    obtain ⟨fragment, rest, hstep, -, -, hsize, hlarge, hrest, hplanned⟩ := h.step hleft
    rw [toList_eq_cons hstep, List.map_cons, ih hplanned hrest, hsize, hlarge]
    rcases hsome : f.largeLeft with - | large
    · rfl
    · rw [if_pos large.succ_pos, Nat.add_sub_cancel, Nat.add_sub_add_right]
      rfl

/-- The number of fragments that is said to be left goes down by one with each call. -/
lemma left_after (calls : Nat) (f : Fragments) :
    (Cursor.after step calls f).left = f.left - calls := by
  rw [← length_toList, yields.ahead_after, List.length_drop, length_toList]

lemma Planned.after (h : f.Planned bits stop) (calls : Nat) :
    (Cursor.after Fragments.step calls f).Planned bits stop := by
  induction calls generalizing f with
  | zero => exact h
  | succ calls ih =>
    rw [Cursor.after_succ]
    rcases hleft : f.left with - | left
    · rw [step_of_left_eq_zero hleft]
      exact ih h
    · obtain ⟨_, _, hstep, -, -, -, -, -, hplanned⟩ := h.step hleft
      rw [hstep]
      exact ih hplanned

/-- The next step keeps to the range of its numbers: it makes no prefix shorter than no bits at all,
and starts at an address that there is. -/
structure NoWrap (f : Fragments) : Prop where
  smallPrefix_le : f.smallPrefix ≤ 32
  smallPrefix_pos : 0 < f.largeLeft → 0 < f.smallPrefix
  next_lt : 0 < f.left → f.next < 2 ^ 32

lemma Planned.noWrap (h : f.Planned bits stop) : f.NoWrap where
  smallPrefix_le := by
    rw [h.smallPrefix]
    exact Nat.sub_le ..
  smallPrefix_pos := by
    intro hsome
    obtain ⟨hlt, -⟩ := h.aligned_large hsome
    rw [h.smallPrefix]
    omega
  next_lt := h.next_lt

/-! ## The split -/

/-- A split of a subnet, as an exact partition. -/
structure Partitions (s : Subnet) (count : Nat) (f : Fragments) : Prop where
  /-- Each call yields the fragment at its place, and nothing is yielded behind the last. -/
  call : ∀ calls, (Cursor.after step calls f).step.1 = f.toList[calls]?
  /-- As many fragments come as were asked for. -/
  length : f.toList.length = count
  /-- The number of fragments that is said to be left is right after every call. -/
  left : ∀ calls, (Cursor.after step calls f).left = count - calls
  /-- The fragments lie side by side, from the first address of the subnet to its last. -/
  tiles : Subnet.Tiles (s.last.toNat + 1) s.first.toNat f.toList
  /-- Every address of the subnet lies in exactly one fragment, and no other address in any. -/
  once : ∀ a, f.toList.countP (·.contains a) = if s.contains a then 1 else 0
  /-- Some fragments, perhaps none, are twice as large as the others, and come first.  The others
  have a power of two for their size, and there are some. -/
  sizes : ∃ bits large, large < count
    ∧ f.toList.map Subnet.size
      = List.replicate large (2 * 2 ^ bits) ++ List.replicate (count - large) (2 ^ bits)
  /-- All fragments have the same size if and only if their number is a power of two. -/
  alike_iff : (∃ size, ∀ t ∈ f.toList, t.size = size) ↔ ∃ n, count = 2 ^ n
  /-- The common size has no more bits than an address, and is not taken off too often. -/
  common : Nat.log2 (s.size / count) ≤ 32 ∧ (1 <<< Nat.log2 (s.size / count)) * count ≤ s.size
  /-- No step leaves the range of its numbers. -/
  noWrap : ∀ calls, (Cursor.after step calls f).NoWrap

/-- Fragments of two sizes are alike if and only if there are none of the one. -/
lemma alike_iff_of_map_size {ts : List Subnet} {large small size : Nat} (hsize : 0 < size)
    (hsmall : 0 < small)
    (h : ts.map Subnet.size = List.replicate large (2 * size) ++ List.replicate small size) :
    (∃ common, ∀ t ∈ ts, t.size = common) ↔ large = 0 := by
  have halike : ∀ common, (∀ t ∈ ts, t.size = common) ↔ ∀ n ∈ ts.map Subnet.size, n = common := by
    intro common
    rw [List.forall_mem_map]
  simp only [halike, h]
  constructor
  · rintro ⟨common, hcommon⟩
    have hlast := hcommon size
      (List.mem_append_right _ (List.mem_replicate.2 ⟨hsmall.ne', rfl⟩))
    by_contra hlarge
    have hfirst := hcommon (2 * size) (List.mem_append_left _ (List.mem_replicate.2 ⟨hlarge, rfl⟩))
    omega
  · rintro rfl
    exact ⟨size, fun n hn => (List.mem_replicate.1 hn).2⟩

/-- A split starts out as planned, if there is room for `2 ^ slots` fragments of the common size. -/
lemma planned_start {s : Subnet} {count slots : Nat} (hsize : s.size = 2 ^ bits * 2 ^ slots)
    (hbits : bits + slots ≤ 32) (hroom : count ≤ 2 ^ slots) (hless : 2 ^ slots < 2 * count) :
    Planned bits (s.last.toNat + 1) ⟨s.network.toNat, 32 - bits, 2 ^ slots - count, count⟩ where
  smallPrefix := rfl
  bits_le := by omega
  stop_le := s.last.toNat_lt
  largeLeft_le := by
    show 2 ^ slots - count ≤ count
    omega
  reach := by
    show s.first.toNat + 2 ^ bits * (count + (2 ^ slots - count)) = s.last.toNat + 1
    rw [Nat.add_sub_cancel' hroom, ← hsize, Subnet.toNat_last_add_one]
  aligned := by
    refine Nat.dvd_trans ?_ s.size_dvd_first
    rw [hsize]
    exact Nat.dvd_mul_right ..
  aligned_large := by
    intro hsome
    have hslots : slots ≠ 0 := by
      rintro rfl
      have : 0 < 2 ^ 0 - count := hsome
      omega
    refine ⟨by omega, Nat.dvd_trans ?_ s.size_dvd_first⟩
    rw [hsize, ← Nat.pow_add]
    exact Nat.pow_dvd_pow 2 (by omega)

/-- The number of fragments is a power of two if and only if none of them is large. -/
lemma no_large_iff {count slots : Nat} (hroom : count ≤ 2 ^ slots) (hless : 2 ^ slots < 2 * count) :
    2 ^ slots - count = 0 ↔ ∃ n, count = 2 ^ n := by
  constructor
  · intro hnone
    exact ⟨slots, by omega⟩
  · rintro ⟨n, rfl⟩
    have hle : n ≤ slots := (Nat.pow_le_pow_iff_right (by decide)).1 hroom
    have hlt : slots < n + 1 := by
      rw [← Nat.pow_lt_pow_iff_right (a := 2) (by decide), Nat.pow_succ]
      omega
    rw [Nat.le_antisymm hle (Nat.le_of_lt_succ hlt), Nat.sub_self]

/-- A split that goes as planned from the start is a partition. -/
lemma Planned.partitions {s : Subnet} {count slots : Nat} (h : f.Planned bits (s.last.toNat + 1))
    (hnext : f.next = s.first.toNat) (hleft : f.left = count)
    (hlarge : f.largeLeft = 2 ^ slots - count) (hroom : count ≤ 2 ^ slots)
    (hless : 2 ^ slots < 2 * count)
    (hcommon : Nat.log2 (s.size / count) ≤ 32
      ∧ (1 <<< Nat.log2 (s.size / count)) * count ≤ s.size) :
    f.Partitions s count := by
  have htiles := h.tiles
  rw [hnext] at htiles
  have hsizes := h.map_size
  rw [hleft, hlarge] at hsizes
  have hfew : 2 ^ slots - count < count := by omega
  exact {
    call := fun calls => yields.call_eq calls f
    length := (length_toList f).trans hleft
    left := by
      intro calls
      rw [left_after, hleft]
    tiles := htiles
    once := by
      intro a
      simp only [htiles.countP_contains a, Subnet.toNat_last_add_one, Subnet.contains_iff]
    sizes := ⟨bits, 2 ^ slots - count, hfew, hsizes⟩
    alike_iff :=
      (alike_iff_of_map_size (Nat.two_pow_pos bits) (Nat.sub_pos_of_lt hfew) hsizes).trans
        (no_large_iff hroom hless)
    common := hcommon
    noWrap := fun calls => (h.after calls).noWrap }

/-- **A split is an exact partition.**  A subnet is split into any number of fragments, except into
none and into more than it has addresses.  The fragments lie side by side from its first address to
its last, the large ones first, and no number on the way leaves its range. -/
theorem split_is_exact (s : Subnet) (count : Nat) :
    match ofSubnet? s count with
    | none => count = 0 ∨ s.size < count
    | some f => (0 < count ∧ count ≤ s.size) ∧ f.Partitions s count := by
  unfold ofSubnet?
  by_cases hrefused : count = 0 ∨ s.size < count
  · rw [if_pos hrefused]
    exact hrefused
  have hcount : 0 < count := by omega
  have hfits : count ≤ s.size := by omega
  obtain ⟨slots, hsize, hroom, hless, hbits⟩ := exists_slots hcount hfits
  have hcommon : 2 ^ Nat.log2 (s.size / count) * count ≤ s.size := by
    conv_rhs => rw [hsize]
    exact Nat.mul_le_mul_left _ hroom
  rw [if_neg hrefused]
  simp only [Nat.one_shiftLeft, leftover_div hsize]
  refine ⟨⟨hcount, hfits⟩, ?_⟩
  refine (planned_start hsize hbits hroom hless).partitions rfl rfl rfl hroom hless ⟨by omega, ?_⟩
  rwa [Nat.one_shiftLeft]

-- the space left over by three fragments of the size that fits three times goes to the first one
example :
    ((ofSubnet? (Subnet.ofAddress (IPv4.ofOctets 10 0 0 0) 24) 3).map fun f =>
        f.toList.map Subnet.toText)
      = some ["10.0.0.0/25", "10.0.0.128/26", "10.0.0.192/26"] := by
  decide +kernel

end Fragments

end Rtnetlink
