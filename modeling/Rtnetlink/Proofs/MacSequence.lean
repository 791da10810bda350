import Mathlib.Algebra.Group.Nat.Defs
import Mathlib.Data.List.Nodup
import Mathlib.Data.List.Range
import Mathlib.Order.Basic
import Mathlib.Tactic.Common
import Rtnetlink.Address.Mac

/-!
# MAC addresses are handed out one after the other

An address stands for a 48-bit number, and each such number is that of exactly one address.  Going
on to the next address counts up by one, whatever is carried from octet to octet, and stops only at
the address whose octets are all ones.  So a sequence of addresses repeats none, leaves none out and
does not start over.

* `Mac.toNat_injective`: an address is known by its number;
* `Mac.skip?_eq_some_iff`, `Mac.skip?_eq_none_iff`: the address that comes so many places further
  on;
* `Mac.CountsUp`, `Mac.sequence_counts_up`: what a sequence of addresses yields, and where it ends.
-/

namespace Rtnetlink.Mac

variable {m n : Mac}

/-! ## Numbers of addresses -/

lemma number_lt (octets : List UInt8) : number octets < byteLimit octets.length := by
  induction octets with
  | nil => decide
  | cons octet rest ih =>
    have hoctet := octet.toNat_lt
    have hhigh := Nat.mul_le_mul_right (byteLimit rest.length) (by omega : octet.toNat ≤ 255)
    simp only [number, List.length_cons, byteLimit]
    omega

lemma number_replicate_zero (count : Nat) : number (List.replicate count 0) = 0 := by
  induction count with
  | zero => rfl
  | succ count ih => simp [List.replicate_succ, number, ih]

/-- The number of octets tells them apart from all others of their length. -/
lemma number_injective {octets octets' : List UInt8} (hlength : octets.length = octets'.length)
    (h : number octets = number octets') : octets = octets' := by
  induction octets generalizing octets' with
  | nil => exact (List.length_eq_zero_iff.1 hlength.symm).symm
  | cons octet rest ih =>
    cases octets' with
    | nil => cases hlength
    | cons octet' rest' =>
      have hrest : rest.length = rest'.length := Nat.succ.inj hlength
      have hlow := number_lt rest
      have hlow' := number_lt rest'
      rw [number, number, ← hrest] at h
      rw [← hrest] at hlow'
      -- the first octet is what the number holds of the places behind it
      have hfirst : octet.toNat = octet'.toNat := by
        have hdiv := congrArg (· / byteLimit rest.length) h
        have hpos := Nat.zero_lt_of_lt hlow
        simpa only [Nat.add_comm (_ * _), Nat.add_mul_div_right _ _ hpos, Nat.div_eq_of_lt hlow,
          Nat.div_eq_of_lt hlow', Nat.zero_add] using hdiv
      rw [hfirst] at h
      rw [UInt8.toNat_inj.1 hfirst, ih hrest (Nat.add_left_cancel h)]

lemma toNat_injective : Function.Injective toNat := by
  rintro ⟨octets, hlength⟩ ⟨octets', hlength'⟩ h
  have hsame : octets = octets' := number_injective (hlength.trans hlength'.symm) h
  subst hsame
  rfl

lemma toNat_lt (m : Mac) : m.toNat < 2 ^ 48 := by
  have hlt := number_lt m.octets
  rwa [m.length_octets] at hlt

/-- The address whose octets are all ones. -/
def greatest : Mac := ⟨List.replicate 6 255, rfl⟩

lemma toNat_greatest : greatest.toNat = 2 ^ 48 - 1 := rfl

lemma toNat_add_one_eq_iff : m.toNat + 1 = 2 ^ 48 ↔ m = greatest := by
  rw [← toNat_injective.eq_iff, toNat_greatest]
  omega

/-! ## The address that follows -/

/-- Only the greatest number of its length has no successor. -/
lemma number_of_successor?_eq_none {octets : List UInt8} (h : successor? octets = none) :
    number octets + 1 = byteLimit octets.length := by
  induction octets with
  | nil => rfl
  | cons octet rest ih =>
    unfold successor? at h
    split at h
    · cases h
    · next hend =>
      split at h
      · next hfull =>
        have hrest := ih hend
        simp only [number, hfull, List.length_cons, byteLimit]
        change 255 * _ + _ + 1 = _
        omega
      · cases h

/-- The octets that follow stand for the next number. -/
lemma number_of_successor? {octets next : List UInt8} (h : successor? octets = some next) :
    number next = number octets + 1 := by
  induction octets generalizing next with
  | nil => cases h
  | cons octet rest ih =>
    unfold successor? at h
    split at h
    · next rest' hrest =>
      cases h
      simp [number, ih hrest, length_of_successor? hrest, Nat.add_assoc]
    · next hend =>
      split at h
      · cases h
      · next hsmall =>
        -- the octets behind are all ones: they become zeros and one is carried
        cases h
        have hcarry := number_of_successor?_eq_none hend
        have hbump : (octet + 1).toNat = octet.toNat + 1 := by
          have hlt := octet.toNat_lt
          have hne : octet.toNat ≠ 255 := fun hsame => hsmall (UInt8.toNat_inj.1 hsame)
          rw [UInt8.toNat_add]
          change (octet.toNat + 1) % 256 = _
          omega
        simp only [number, number_replicate_zero, List.length_replicate, hbump, Nat.add_mul]
        omega

lemma toNat_of_next? (h : m.next? = some n) : n.toNat = m.toNat + 1 := by
  unfold next? at h
  split at h
  · next octets hnext =>
    cases h
    exact number_of_successor? hnext
  · cases h

lemma toNat_of_next?_eq_none (h : m.next? = none) : m.toNat + 1 = 2 ^ 48 := by
  unfold next? at h
  split at h
  · cases h
  · next hnone =>
    have hfull := number_of_successor?_eq_none hnone
    rwa [m.length_octets] at hfull

/-! ## The addresses further on -/

/-- The address so many places further on is the one with a number that is so much greater. -/
lemma skip?_eq_some_iff {k : Nat} : skip? k m = some n ↔ n.toNat = m.toNat + k := by
  induction k generalizing m with
  | zero => rw [skip?, Option.some_inj, Nat.add_zero, eq_comm, toNat_injective.eq_iff]
  | succ k ih =>
    unfold skip?
    split
    · next hnone =>
      have hfull := toNat_of_next?_eq_none hnone
      have hlt := n.toNat_lt
      refine iff_of_false nofun ?_
      omega
    · next following hnext =>
      rw [ih, toNat_of_next? hnext, Nat.add_right_comm, Nat.add_assoc]

/-- There is none if the number would be too great. -/
lemma skip?_eq_none_iff {k : Nat} : skip? k m = none ↔ 2 ^ 48 ≤ m.toNat + k := by
  induction k generalizing m with
  | zero => exact iff_of_false nofun (Nat.not_le.2 m.toNat_lt)
  | succ k ih =>
    unfold skip?
    split
    · next hnone =>
      have hfull := toNat_of_next?_eq_none hnone
      refine iff_of_true rfl ?_
      omega
    · next following hnext =>
      rw [ih, toNat_of_next? hnext, Nat.add_right_comm, Nat.add_assoc]

lemma skip?_one : skip? 1 m = m.next? := by
  unfold skip?
  split
  · next hnone => exact hnone.symm
  · next hnext => exact hnext.symm

/-! ## Sequences -/

/-- Taking some addresses of a sequence leaves the address behind them. -/
lemma take_snd (count : Nat) (m : Mac) : (take count (some m)).2 = skip? count m := by
  induction count generalizing m with
  | zero => rfl
  | succ count ih =>
    unfold skip?
    split
    · next hnone =>
      rw [take, hnone]
      cases count <;> rfl
    · next following hnext => rw [take, hnext, ← ih]

/-- The numbers of the addresses that are taken follow each other, up to the greatest. -/
lemma map_toNat_take (count : Nat) (m : Mac) :
    (take count (some m)).1.map toNat = List.range' m.toNat (min count (2 ^ 48 - m.toNat)) := by
  induction count generalizing m with
  | zero => rw [Nat.zero_min, take, List.map_nil, List.range'_zero]
  | succ count ih =>
    have hlt := m.toNat_lt
    rw [take]
    dsimp only
    rcases hnext : m.next? with - | following
    · have hfull := toNat_of_next?_eq_none hnext
      have hend : take count none = ([], none) := by cases count <;> rfl
      have hone : min (count + 1) (2 ^ 48 - m.toNat) = 1 := by omega
      rw [hend, hone, List.map_cons, List.map_nil, List.range'_one]
    · have hfollowing := toNat_of_next? hnext
      have hmore : min (count + 1) (2 ^ 48 - m.toNat)
          = min count (2 ^ 48 - (m.toNat + 1)) + 1 := by
        have hbelow := following.toNat_lt
        omega
      rw [List.map_cons, ih, hfollowing, hmore, List.range'_succ]

/-- What follows an address counts up from it, and ends. -/
structure CountsUp (m : Mac) : Prop where
  /-- The address that follows has the next number. -/
  next?_eq_some_iff : ∀ n, m.next? = some n ↔ n.toNat = m.toNat + 1
  /-- None follows the address whose octets are all ones. -/
  next?_eq_none_iff : m.next? = none ↔ m = greatest
  /-- The address `k` places further on has a number that is greater by `k`. -/
  skip?_eq_some_iff : ∀ k n, skip? k m = some n ↔ n.toNat = m.toNat + k
  /-- The sequence has ended if no 48-bit number is. -/
  skip?_eq_none_iff : ∀ k, skip? k m = none ↔ 2 ^ 48 ≤ m.toNat + k
  /-- What is taken from the sequence are addresses with the numbers from that of the first on, up
  to the greatest. -/
  map_toNat_take : ∀ count, (take count (some m)).1.map toNat
    = List.range' m.toNat (min count (2 ^ 48 - m.toNat))
  /-- No address is taken twice. -/
  nodup_take : ∀ count, (take count (some m)).1.Nodup
  /-- What is left is the address behind those that were taken. -/
  take_snd : ∀ count, (take count (some m)).2 = skip? count m

/-- **A sequence of addresses counts up and ends**, from whatever address it starts. -/
theorem sequence_counts_up (m : Mac) : m.CountsUp where
  next?_eq_some_iff n := by rw [← skip?_one, skip?_eq_some_iff]
  next?_eq_none_iff := by
    have hlt := m.toNat_lt
    rw [← skip?_one, skip?_eq_none_iff, ← toNat_add_one_eq_iff]
    omega
  skip?_eq_some_iff _ _ := skip?_eq_some_iff
  skip?_eq_none_iff _ := skip?_eq_none_iff
  map_toNat_take count := map_toNat_take count m
  nodup_take count := by
    have hnumbers : ((take count (some m)).1.map toNat).Nodup := by
      rw [map_toNat_take]
      exact List.nodup_range'
    exact hnumbers.of_map toNat
  take_snd count := take_snd count m

-- one is carried through all octets but the first, and nothing follows the greatest address
example : (take 3 (some ⟨[0xfe, 255, 255, 255, 255, 255], rfl⟩)).1.map octets
      = [[0xfe, 255, 255, 255, 255, 255], [255, 0, 0, 0, 0, 0], [255, 0, 0, 0, 0, 1]]
    ∧ take 3 (some greatest) = ([greatest], none) := by
  decide

end Rtnetlink.Mac
