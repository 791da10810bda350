import Rtnetlink.Address.Subnet

/-!
# Host enumeration

The addresses of a subnet are listed in ascending order, leaving out those of other subnets.  The
ranges to leave out are sorted by where they start, longer ones first, and are used up from the
front as the enumeration passes them.
-/

namespace Rtnetlink

/-- An enumeration of addresses. -/
structure Hosts where
  /-- The next address that may be listed, as a number. -/
  next : Nat
  /-- The last address that may be listed. -/
  last : Nat
  /-- The ranges to leave out, each from its first to its last address, sorted. -/
  avoid : List (Nat × Nat)
deriving DecidableEq, Repr

namespace Hosts

/-- Whether a range is to be met no later than another: it starts earlier, or starts at the same
address and ends no earlier. -/
def meetsFirst (a b : Nat × Nat) : Bool :=
  decide (a.1 < b.1 ∨ (a.1 = b.1 ∧ b.2 ≤ a.2))

/-- The enumeration of a subnet without the addresses of other subnets. -/
def ofSubnet (s : Subnet) (avoid : List Subnet) : Hosts where
  next := s.first.toNat
  last := s.last.toNat
  avoid := (avoid.map fun other => (other.first.toNat, other.last.toNat)).mergeSort meetsFirst

/-- The next address from `next` on and what is left of the enumeration.  A range that lies behind
is dropped, and one that covers the next address moves it past the range. -/
def advance (last next : Nat) : (avoid : List (Nat × Nat)) → Option IPv4 × Hosts
  | [] =>
    if last < next then
      (none, ⟨next, last, []⟩)
    else
      (some (IPv4.ofNat next), ⟨next + 1, last, []⟩)
  | (low, high) :: rest =>
    if last < next then
      (none, ⟨next, last, (low, high) :: rest⟩)
    else if high < next then
      advance last next rest
    else if low ≤ next then
      advance last (high + 1) rest
    else
      (some (IPv4.ofNat next), ⟨next + 1, last, (low, high) :: rest⟩)

/-- The next address and the enumeration after it. -/
def step (h : Hosts) : Option IPv4 × Hosts := advance h.last h.next h.avoid

theorem advance_decreases {last next : Nat} {avoid : List (Nat × Nat)} {address : IPv4}
    {rest : Hosts} (h : advance last next avoid = (some address, rest)) :
    rest.last + 1 - rest.next < last + 1 - next := by
  induction avoid generalizing next with
  | nil =>
    unfold advance at h
    split at h
    · cases h
    · cases h
      simp only
      omega
  | cons range ranges ih =>
    obtain ⟨low, high⟩ := range
    unfold advance at h
    split at h
    · cases h
    · split at h
      · exact ih h
      · split at h
        · have hrest := ih h
          omega
        · cases h
          simp only
          omega

/-- A step that lists an address leaves fewer that may be listed. -/
theorem step_decreases {h rest : Hosts} {address : IPv4} (hstep : h.step = (some address, rest)) :
    rest.last + 1 - rest.next < h.last + 1 - h.next :=
  advance_decreases hstep

/-- The addresses from here to the end. -/
def toList (h : Hosts) : List IPv4 :=
  match hstep : h.step with
  | (some address, rest) =>
    have := step_decreases hstep
    address :: toList rest
  | (none, _) => []
termination_by h.last + 1 - h.next

end Hosts

end Rtnetlink
