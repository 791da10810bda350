import Mathlib.Data.List.Basic
import Rtnetlink.Address.Hosts
import Rtnetlink.Proofs.Cursor
import Rtnetlink.Proofs.Intervals

/-!
# The addresses that an enumeration lists

An enumeration has one place and one list of ranges, and goes forward in both.  What is ahead of it
are the addresses from its place on that are in none of the ranges.  A range that is dropped lies
behind the place and can no longer leave anything out.  A range that has not been reached leaves out
nothing at the place if it starts behind it, and then no range after it does, because ranges are met
in the order in which they start.

* `Hosts.spared`: the addresses ahead, as a filtered interval;
* `Hosts.WellFormed.toNat_toList`: they are what is listed;
* `Hosts.ofSubnet_lists`: the addresses that the enumeration of a subnet lists, whatever the order
  of the subnets to avoid.
-/

namespace Rtnetlink

namespace Hosts

variable {last next : Nat} {avoid : List (Nat × Nat)} {h : Hosts}

/-! ## What is ahead -/

/-- A number that lies in none of the ranges. -/
def Spared (avoid : List (Nat × Nat)) (n : Nat) : Prop :=
  ∀ range ∈ avoid, n < range.1 ∨ range.2 < n

instance (n : Nat) : Decidable (Spared avoid n) := List.decidableBAll ..

/-- The numbers of an interval that lie in none of the ranges. -/
def spared (last next : Nat) (avoid : List (Nat × Nat)) : List Nat :=
  (List.range' next (last + 1 - next)).filter (Spared avoid ·)

@[simp] lemma mem_spared {n : Nat} :
    n ∈ spared last next avoid ↔ (next ≤ n ∧ n ≤ last) ∧ Spared avoid n := by
  rw [spared, List.mem_filter, List.mem_range'_1, decide_eq_true_eq]
  refine and_congr_left fun _ => ?_
  omega

lemma pairwise_spared : (spared last next avoid).Pairwise (· < ·) :=
  (List.pairwise_lt_range' 1).filter _

lemma spared_of_lt (hbehind : last < next) : spared last next avoid = [] := by
  have hempty : last + 1 - next = 0 := by omega
  rw [spared, hempty]
  rfl

lemma spared_of_le (hle : next ≤ last) :
    spared last next avoid
      = (if Spared avoid next then [next] else []) ++ spared last (next + 1) avoid := by
  have hlength : last + 1 - next = (last + 1 - (next + 1)) + 1 := by omega
  rw [spared, hlength, List.range'_succ, List.filter_cons]
  simp only [decide_eq_true_eq]
  split <;> rfl

/-- Numbers that are not spared can be passed over. -/
lemma spared_skip {next' : Nat} (hle : next ≤ next')
    (hskip : ∀ n, next ≤ n → n < next' → ¬Spared avoid n) :
    spared last next avoid = spared last next' avoid := by
  induction hle with
  | refl => rfl
  | @step next' hle ih =>
    rw [ih fun n hlow hhigh => hskip n hlow (Nat.lt_succ_of_lt hhigh)]
    rcases Nat.lt_or_ge last next' with hend | hmore
    · rw [spared_of_lt hend, spared_of_lt (Nat.lt_succ_of_lt hend)]
    · rw [spared_of_le hmore, if_neg (hskip next' hle (Nat.lt_succ_self next')), List.nil_append]

/-- A range that lies behind leaves nothing out. -/
lemma spared_drop {low high : Nat} (hbehind : high < next) :
    spared last next ((low, high) :: avoid) = spared last next avoid := by
  refine List.filter_congr fun n hn => decide_eq_decide.2 ?_
  have hn := (List.mem_range'_1.1 hn).1
  rw [Spared, List.forall_mem_cons]
  exact and_iff_right (.inr (by omega))

/-! ## One step -/

/-- The ranges are sorted by where they start, and all addresses to come are there. -/
structure WellFormed (h : Hosts) : Prop where
  last_lt : h.last < 2 ^ 32
  sorted : h.avoid.Pairwise (·.1 ≤ ·.1)

/-- A step lists the first address that is ahead, and leaves the others ahead. -/
lemma advance_spec (hlast : last < 2 ^ 32) (hsorted : avoid.Pairwise (·.1 ≤ ·.1)) :
    match advance last next avoid with
    | (none, _) => spared last next avoid = []
    | (some a, rest) =>
      spared last next avoid = a.toNat :: spared rest.last rest.next rest.avoid
        ∧ rest.WellFormed := by
  -- an address is listed if it is spared
  have hlisted : ∀ {next avoid}, ¬last < next → Spared avoid next →
      spared last next avoid = (IPv4.ofNat next).toNat :: spared last (next + 1) avoid := by
    intro next avoid hmore hspared
    rw [spared_of_le (by omega), if_pos hspared, IPv4.toNat_ofNat (by omega)]
    rfl
  fun_induction advance last next avoid with
  | case1 next hend => exact spared_of_lt hend
  | case2 next hmore => exact ⟨hlisted hmore (List.forall_mem_nil _), hlast, .nil⟩
  | case3 next low high rest hend => exact spared_of_lt hend
  | case4 next low high rest hmore hbehind ih =>
    rw [spared_drop hbehind]
    exact ih hsorted.of_cons
  | case5 next low high rest hmore hahead hcovers ih =>
    have hskip : ∀ n, next ≤ n → n < high + 1 → ¬Spared ((low, high) :: rest) n := by
      intro n hlow hhigh hspared
      have : n < low ∨ high < n := hspared (low, high) List.mem_cons_self
      omega
    rw [spared_skip (by omega) hskip, spared_drop (Nat.lt_succ_self high)]
    exact ih hsorted.of_cons
  | case6 next low high rest hmore hahead hbefore =>
    refine ⟨hlisted hmore ?_, hlast, hsorted⟩
    -- the ranges after this one start no earlier
    intro range hrange
    rcases List.mem_cons.1 hrange with rfl | hrange
    · exact .inl (by omega)
    · have hlow : low ≤ range.1 := List.rel_of_pairwise_cons hsorted hrange
      exact .inl (by omega)

lemma WellFormed.step_spec (hwf : h.WellFormed) :
    match h.step with
    | (none, _) => spared h.last h.next h.avoid = []
    | (some a, rest) =>
      spared h.last h.next h.avoid = a.toNat :: spared rest.last rest.next rest.avoid
        ∧ rest.WellFormed :=
  advance_spec hwf.last_lt hwf.sorted

/-- What is ahead is what is listed. -/
lemma WellFormed.toNat_toList (hwf : h.WellFormed) :
    h.toList.map IPv4.toNat = spared h.last h.next h.avoid := by
  fun_induction toList h with
  | case1 h a rest hlisted _ ih =>
    have hspec := hwf.step_spec
    rw [hlisted] at hspec
    obtain ⟨hahead, hrest⟩ := hspec
    rw [List.map_cons, ih hrest, hahead]
  | case2 h rest hended =>
    have hspec := hwf.step_spec
    rw [hended] at hspec
    exact hspec.symm

/-! ## All steps -/

lemma last_lt_next_of_advance {rest : Hosts} (hended : advance last next avoid = (none, rest)) :
    rest.last < rest.next := by
  fun_induction advance last next avoid with
  | case1 next hend =>
    cases hended
    exact hend
  | case2 => cases hended
  | case3 next low high rest hend =>
    cases hended
    exact hend
  | case4 _ _ _ _ _ _ ih => exact ih hended
  | case5 _ _ _ _ _ _ _ ih => exact ih hended
  | case6 => cases hended

lemma toList_eq_cons {rest : Hosts} {a : IPv4} (hstep : h.step = (some a, rest)) :
    h.toList = a :: rest.toList := by
  rw [toList]
  split
  · next hfound =>
    cases hstep.symm.trans hfound
    rfl
  · next hend => cases hstep.symm.trans hend

lemma toList_eq_nil {rest : Hosts} (hstep : h.step = (none, rest)) : h.toList = [] := by
  rw [toList]
  split
  · next hfound => cases hstep.symm.trans hfound
  · rfl

lemma toList_of_lt (hend : h.last < h.next) : h.toList = [] := by
  have hnone : h.step = (none, h) := by
    rcases havoid : h.avoid with - | ⟨range, rest⟩
    · rw [step, havoid, advance, if_pos hend, ← havoid]
    · rw [step, havoid, advance, if_pos hend, ← havoid]
  exact toList_eq_nil hnone

/-- The list of the addresses is what the calls yield. -/
lemma yields : Cursor.Yields step toList where
  item := toList_eq_cons
  none hended := ⟨toList_eq_nil hended, toList_of_lt (last_lt_next_of_advance hended)⟩

/-! ## The addresses of a subnet -/

section

variable {s : Subnet} {avoided : List Subnet}

lemma ofSubnet_wellFormed : (ofSubnet s avoided).WellFormed where
  last_lt := s.last.toNat_lt
  sorted := by
    refine List.Pairwise.imp ?_ (List.pairwise_mergeSort ?_ ?_ _)
    · intro a b hmeets
      have := of_decide_eq_true hmeets
      omega
    · simp only [meetsFirst, decide_eq_true_eq]
      omega
    · simp only [meetsFirst, Bool.or_eq_true, decide_eq_true_eq]
      omega

lemma spared_ofSubnet_iff {n : Nat} :
    Spared (ofSubnet s avoided).avoid n
      ↔ ∀ v ∈ avoided, n < v.first.toNat ∨ v.last.toNat < n := by
  simp only [Spared, ofSubnet, List.mem_mergeSort, List.forall_mem_map]

/-- An address is spared if it lies in none of the subnets. -/
lemma spared_toNat_iff {a : IPv4} :
    Spared (ofSubnet s avoided).avoid a.toNat ↔ ∀ v ∈ avoided, v.contains a = false := by
  rw [spared_ofSubnet_iff]
  refine forall₂_congr fun v _ => ?_
  have hlast := v.toNat_last_add_one
  rw [← Bool.not_eq_true, Subnet.contains_iff]
  omega

lemma mem_toList_ofSubnet_iff {a : IPv4} :
    a ∈ (ofSubnet s avoided).toList
      ↔ s.contains a = true ∧ ∀ v ∈ avoided, v.contains a = false := by
  rw [← List.mem_map_of_injective IPv4.toNat_injective, ofSubnet_wellFormed.toNat_toList,
    mem_spared, spared_toNat_iff, Subnet.contains_iff, ← Subnet.toNat_last_add_one]
  exact and_congr_left fun _ => and_congr_right fun _ => Nat.lt_succ_iff.symm

/-- Only which subnets are to be avoided matters. -/
lemma toList_ofSubnet_congr {avoided' : List Subnet} (hsame : ∀ v, v ∈ avoided' ↔ v ∈ avoided) :
    (ofSubnet s avoided').toList = (ofSubnet s avoided).toList := by
  refine IPv4.toNat_injective.list_map ?_
  rw [ofSubnet_wellFormed.toNat_toList, ofSubnet_wellFormed.toNat_toList]
  refine List.filter_congr fun n _ => decide_eq_decide.2 ?_
  simp only [spared_ofSubnet_iff, hsame]

/-- **An enumeration lists the addresses of the subnet that are in none of those to avoid.**  It
lists them in ascending order, so each once, and then nothing any more.  In which order the subnets
to avoid are given, and how often, makes no difference. -/
theorem ofSubnet_lists (s : Subnet) (avoided : List Subnet) :
    (∀ calls, (Cursor.after step calls (ofSubnet s avoided)).step.1
        = (ofSubnet s avoided).toList[calls]?)
      ∧ (ofSubnet s avoided).toList.Pairwise (fun a b => a.toNat < b.toNat)
      ∧ (∀ a, a ∈ (ofSubnet s avoided).toList
        ↔ s.contains a = true ∧ ∀ v ∈ avoided, v.contains a = false)
      ∧ ∀ avoided', (∀ v, v ∈ avoided' ↔ v ∈ avoided) →
        (ofSubnet s avoided').toList = (ofSubnet s avoided).toList := by
  refine ⟨fun calls => yields.call_eq calls _, ?_, fun a => mem_toList_ofSubnet_iff,
    fun avoided' => toList_ofSubnet_congr⟩
  have hascending : ((ofSubnet s avoided).toList.map IPv4.toNat).Pairwise (· < ·) := by
    rw [ofSubnet_wellFormed.toNat_toList]
    exact pairwise_spared
  exact List.pairwise_map.1 hascending

/-- The subnets to avoid are nested, end with the last address there is, and one is given twice. -/
theorem ofSubnet_lists_nested :
    let whole := Subnet.ofAddress (IPv4.ofNat 4294967288) 29
    let outer := Subnet.ofAddress (IPv4.ofNat 4294967292) 30
    let inner := Subnet.ofAddress (IPv4.ofNat 4294967295) 32
    (∀ v, v ∈ [inner, outer, inner] ↔ v ∈ [outer, inner])
      ∧ (ofSubnet whole [inner, outer, inner]).toList = (ofSubnet whole [outer, inner]).toList := by
  intro whole outer inner
  have hsame : ∀ v, v ∈ [inner, outer, inner] ↔ v ∈ [outer, inner] := by
    intro v
    simp only [List.mem_cons, List.not_mem_nil, or_false]
    tauto
  exact ⟨hsame, (ofSubnet_lists whole [outer, inner]).2.2.2 _ hsame⟩

end

end Hosts

end Rtnetlink
