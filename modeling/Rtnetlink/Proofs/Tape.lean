import Mathlib.Algebra.Group.Nat.Defs
import Mathlib.Data.List.Basic
import Mathlib.Tactic.Common
import Rtnetlink.Proofs.Outline

/-!
# The storage of an arena is the start of a tape

Think of a tape without an end that holds zeros, and of how much of its start is committed.  What is
done to an arena is done to the tape at the same places: bytes are written, over old ones or behind
them, and the committed part becomes longer or starts over.  The storage is as much of the start of
the tape as has been reserved so far.  So reserving does nothing to the tape, and when or how often
the storage has grown does not show in what is committed.

* `Arena.Shows`: the storage is the start of a tape;
* `Arena.Action.run_shows`: an action succeeds, and does to the storage what it does to the tape;
* `Arena.ReachedBy`, `Arena.GoesOn`: what a row of actions has made of an arena, and one more;
* `Arena.refines_tape`: a row of actions succeeds, and another one goes on or stops.
-/

namespace Rtnetlink

/-- A tape without an end, and how many bytes at its start are committed. -/
structure Tape where
  /-- The bytes, which are zeros to begin with. -/
  byteAt : Nat → UInt8 := fun _ => 0
  /-- How many bytes at the start are committed. -/
  committed : Nat := 0

namespace Tape

/-- So many bytes at the start. -/
def first (t : Tape) (count : Nat) : List UInt8 := (List.range count).map t.byteAt

/-- Writes bytes from a place on. -/
def write (place : Nat) (bytes : List UInt8) (t : Tape) : Tape :=
  { t with
    byteAt := fun i => if i < place then t.byteAt i else bytes.getD (i - place) (t.byteAt i) }

/-- Commits so many more bytes. -/
def advance (amount : Nat) (t : Tape) : Tape := { t with committed := t.committed + amount }

/-- Starts over with nothing committed; no byte is changed. -/
def rewind (t : Tape) : Tape := { t with committed := 0 }

/-- Writes bytes behind the committed ones and commits them. -/
def append (bytes : List UInt8) (t : Tape) : Tape :=
  (t.write t.committed bytes).advance bytes.length

variable {t : Tape} {bytes : List UInt8}

lemma take_first {count more : Nat} (h : count ≤ more) :
    (t.first more).take count = t.first count := by
  rw [first, ← List.map_take, List.take_range, Nat.min_eq_left h, first]

/-- Appending puts the bytes behind those that were committed. -/
lemma first_append (bytes : List UInt8) (t : Tape) :
    (t.append bytes).first (t.append bytes).committed = t.first t.committed ++ bytes := by
  have hcommitted : (t.append bytes).committed = t.committed + bytes.length := rfl
  rw [hcommitted, first, List.range_add, List.map_append, List.map_map, first]
  congr 1
  · apply List.map_congr_left
    intro i hi
    exact if_pos (List.mem_range.1 hi)
  · apply List.ext_getElem
    · rw [List.length_map, List.length_range]
    · intro i _ hi
      have hbehind : ¬ t.committed + i < t.committed := by omega
      simp only [append, advance, write, List.getElem_map, List.getElem_range,
        Function.comp_apply, if_neg hbehind, Nat.add_sub_cancel_left,
        List.getD_eq_getElem?_getD, List.getElem?_eq_getElem hi, Option.getD_some]

end Tape

namespace Arena

/-! ## Actions -/

/-- What can be done to an arena. -/
inductive Action where
  /-- Reserving bytes. -/
  | reserve (amount : Nat)
  /-- Committing reserved bytes as they are. -/
  | commit (amount : Nat)
  /-- Starting over and reserving bytes. -/
  | reset (amount : Nat)
  /-- Appending bytes. -/
  | extend (bytes : List UInt8)
  /-- Appending zeros. -/
  | extendZero (amount : Nat)
  /-- Writing to the start of the tail. -/
  | write (bytes : List UInt8)
  /-- Writing over committed bytes. -/
  | patch (offset : Nat) (bytes : List UInt8)
deriving DecidableEq, Repr

namespace Action

/-- The action, done to an arena. -/
def run {ε : Type} : Action → Run ε Arena Unit
  | .reserve amount => Arena.reserve amount
  | .commit amount => Arena.commit amount
  | .reset amount => Arena.reset amount
  | .extend bytes => Arena.extend bytes
  | .extendZero amount => Arena.extendZero amount
  | .write bytes => Arena.write bytes
  | .patch offset bytes => Arena.patch offset bytes

/-- The action, done to a tape. -/
def effect : Action → Tape → Tape
  | .reserve _ => id
  | .commit amount => Tape.advance amount
  | .reset _ => Tape.rewind
  | .extend bytes => Tape.append bytes
  | .extendZero amount => Tape.append (List.replicate amount 0)
  | .write bytes => fun t => t.write t.committed bytes
  | .patch offset bytes => Tape.write offset bytes

/-- How many bytes there has to be storage for if the action reserves some. -/
def required (committed : Nat) : Action → Nat
  | .reserve amount | .extendZero amount => committed + amount
  | .extend bytes => committed + bytes.length
  | .reset amount => amount
  | .commit _ | .write _ | .patch .. => 0

/-- The action commits what was reserved, writes to the tail, or writes over committed bytes, if it
does any of this. -/
def IsInside (committed capacity : Nat) : Action → Prop
  | .commit amount => committed + amount ≤ capacity
  | .write bytes => committed + bytes.length ≤ capacity
  | .patch offset bytes => offset + bytes.length ≤ committed
  | .reserve _ | .reset _ | .extend _ | .extendZero _ => True

instance (committed capacity : Nat) : (x : Action) → Decidable (x.IsInside committed capacity)
  | .commit _ | .write _ | .patch .. => inferInstanceAs (Decidable (_ ≤ _))
  | .reserve _ | .reset _ | .extend _ | .extendZero _ => inferInstanceAs (Decidable True)

/-- There can be storage for what the action reserves, also if it has to grow. -/
def HasRoom (committed capacity : Nat) (x : Action) : Prop :=
  x.required committed ≤ Size.greatest ∧
    (x.required committed ≤ capacity ∨ x.required committed * 2 ≤ Size.greatest)

instance (committed capacity : Nat) (x : Action) : Decidable (x.HasRoom committed capacity) :=
  inferInstanceAs (Decidable (_ ∧ _))

/-- What is left of an action if nothing is reserved by it. -/
def lasting? : Action → Option Action
  | .reserve _ => none
  | .reset _ => some (.reset 0)
  | x => some x

end Action

/-- The size of storage that has to hold so many bytes: it grows only if it is too small, and then
to twice as many. -/
def grown (capacity required : Nat) : Nat :=
  if required ≤ capacity then capacity else required * 2

/-- Some actions, one after the other. -/
def performAll {ε : Type} : List Action → Run ε Arena Unit
  | [] => pure ()
  | x :: rest => do
    x.run
    performAll rest

/-- The tape after some actions. -/
def tapeAfter (actions : List Action) (t : Tape) : Tape := actions.foldl (fun t x => x.effect t) t

/-- The size of the storage after some actions. -/
def capacityAfter : List Action → Tape → Nat → Nat
  | [], _, capacity => capacity
  | x :: rest, t, capacity =>
    capacityAfter rest (x.effect t) (grown capacity (x.required t.committed))

/-- Each of some actions keeps inside the part it may use, and there can be storage for what it
reserves. -/
def InOrder : List Action → Tape → Nat → Prop
  | [], _, _ => True
  | x :: rest, t, capacity =>
    x.IsInside t.committed capacity ∧ x.HasRoom t.committed capacity ∧
      InOrder rest (x.effect t) (grown capacity (x.required t.committed))

instance : (actions : List Action) → (t : Tape) → (capacity : Nat) →
    Decidable (InOrder actions t capacity)
  | [], _, _ => inferInstanceAs (Decidable True)
  | x :: rest, t, capacity =>
    have := instDecidableInOrder rest (x.effect t) (grown capacity (x.required t.committed))
    inferInstanceAs (Decidable (_ ∧ _ ∧ _))

/-! ## The storage and the tape -/

variable {ε : Type} {a : Arena} {t : Tape} {bytes : List UInt8} {amount : Nat}

/-- The storage is the start of a tape that holds zeros behind it, and as much is committed of the
one as of the other. -/
structure Shows (a : Arena) (t : Tape) : Prop where
  /-- The bytes of the storage are the first bytes of the tape. -/
  storage : a.storage = t.first a.capacity
  /-- Nothing was written behind the storage. -/
  behind : ∀ place, a.capacity ≤ place → t.byteAt place = 0
  /-- The same is committed. -/
  committed : a.committed = t.committed
  /-- What is committed is in the storage. -/
  fits : a.committed ≤ a.capacity

namespace Shows

/-- Seen without an end, the storage is the tape. -/
lemma byteAt (h : a.Shows t) (place : Nat) : a.byteAt place = t.byteAt place := by
  rw [Arena.byteAt, h.storage, Tape.first, List.getD_eq_getElem?_getD, List.getElem?_map]
  by_cases hplace : place < a.capacity
  · rw [List.getElem?_range hplace, Option.map_some, Option.getD_some]
  · have hlong : (List.range a.capacity).length ≤ place := by simpa using hplace
    rw [List.getElem?_eq_none hlong, Option.map_none, Option.getD_none,
      h.behind place (Nat.le_of_not_lt hplace)]

lemma of_byteAt (hbytes : ∀ place, a.byteAt place = t.byteAt place)
    (hcommitted : a.committed = t.committed) (hfits : a.committed ≤ a.capacity) : a.Shows t where
  storage := by
    have hall : 0 + a.capacity ≤ a.capacity := Nat.le_of_eq (Nat.zero_add _)
    have hwindow : (a.storage.drop 0).take a.capacity = a.window 0 a.capacity :=
      take_drop_storage hall
    rw [List.drop_zero, capacity, List.take_length] at hwindow
    rw [hwindow, window, Tape.first]
    simp only [capacity, Nat.zero_add, hbytes]
  behind := by
    intro place hplace
    rw [← hbytes, Arena.byteAt, List.getD_eq_getElem?_getD, List.getElem?_eq_none hplace,
      Option.getD_none]
  committed := hcommitted
  fits := hfits

/-- The committed bytes are those of the tape. -/
lemma data (h : a.Shows t) : a.data = t.first t.committed := by
  rw [Arena.data, h.storage, h.committed, Tape.take_first (h.committed ▸ h.fits)]

end Shows

/-- A fresh arena is the start of a fresh tape. -/
lemma exists_ofCapacity? {capacity : Nat} (h : capacity ≤ Size.greatest) :
    ∃ a, ofCapacity? capacity = some a ∧ a.Shows {} ∧ a.capacity = capacity := by
  refine ⟨_, if_neg (Nat.not_lt.2 h), .of_byteAt (fun place => ?_) rfl (Nat.zero_le _),
    List.length_replicate⟩
  rw [Arena.byteAt, List.getD_eq_getElem?_getD, List.getElem?_replicate]
  split <;> rfl

/-! ## Single steps -/

/-- What is written over the storage is read back, and the rest of it stays as it was. -/
lemma byteAt_overlay {offset : Nat} (hfits : offset + bytes.length ≤ a.capacity) (place : Nat) :
    Arena.byteAt { a with storage := overlay a.storage offset bytes } place
      = if place < offset then a.byteAt place
        else bytes.getD (place - offset) (a.byteAt place) := by
  have hoffset : offset ≤ a.storage.length := by
    rw [capacity] at hfits
    omega
  by_cases hfront : place < offset
  · rw [if_pos hfront, Arena.byteAt, Arena.byteAt, List.getD_eq_getElem?_getD,
      getElem?_overlay_of_lt hfront hoffset, List.getD_eq_getElem?_getD]
  · rw [if_neg hfront]
    by_cases hbehind : offset + bytes.length ≤ place
    · rw [byteAt_overlay_of_le hbehind hfits, List.getD_eq_getElem?_getD,
        List.getElem?_eq_none (by omega), Option.getD_none]
    · have hinside : place - offset < bytes.length := by omega
      have hlength : (a.storage.take offset).length = offset := by
        rw [List.length_take, Nat.min_eq_left hoffset]
      rw [Arena.byteAt, overlay, List.append_assoc, List.getD_eq_getElem?_getD,
        List.getElem?_append_right (by omega), hlength, List.getElem?_append_left hinside,
        List.getD_eq_getElem?_getD, List.getElem?_eq_getElem hinside, Option.getD_some,
        Option.getD_some]

namespace Shows

lemma write (h : a.Shows t) {place : Nat} (hinside : place + bytes.length ≤ a.capacity) :
    Shows { a with storage := overlay a.storage place bytes } (t.write place bytes) := by
  refine .of_byteAt (fun i => ?_) h.committed ?_
  · rw [byteAt_overlay hinside, h.byteAt]
    rfl
  · rw [capacity, length_overlay hinside]
    exact h.fits

lemma advance (h : a.Shows t) (hroom : a.committed + amount ≤ a.capacity) :
    Shows { a with committed := a.committed + amount } (t.advance amount) :=
  ⟨h.storage, h.behind, congrArg (· + amount) h.committed, hroom⟩

lemma rewind (h : a.Shows t) : Shows { a with committed := 0 } t.rewind :=
  ⟨h.storage, h.behind, rfl, Nat.zero_le _⟩

end Shows

lemma capacity_le_grown (capacity required : Nat) : capacity ≤ grown capacity required := by
  unfold grown
  split <;> omega

lemma required_le_grown (capacity required : Nat) : required ≤ grown capacity required := by
  unfold grown
  split <;> omega

/-- Reserving fills the storage up with zeros to the size it grows to. -/
lemma reserve_eq_grown (hroom : a.CanHold (a.committed + amount)) :
    (reserve amount : Run ε Arena Unit) a = .ok () { a with
      storage := a.storage
        ++ List.replicate (grown a.capacity (a.committed + amount) - a.capacity) 0 } := by
  obtain ⟨hsmall, hspace⟩ := hroom
  unfold reserve grown
  simp only [Size.wrap_of_le_greatest hsmall]
  by_cases hlarge : a.committed + amount ≤ a.capacity
  · simp [hlarge]
  · have hdouble : (a.committed + amount) * 2 ≤ Size.greatest := hspace.resolve_left hlarge
    have hkept : a.storage.take ((a.committed + amount) * 2) = a.storage :=
      List.take_of_length_le (by rw [capacity] at hlarge; omega)
    simp only [if_neg hlarge, Size.wrap_of_le_greatest hdouble, if_neg (Nat.not_lt.2 hdouble),
      resized, hkept]
    rfl

/-- What reserving adds is what the tape holds there. -/
lemma reserve_shows (h : a.Shows t) (hroom : a.CanHold (a.committed + amount)) :
    ∃ b, (reserve amount : Run ε Arena Unit) a = .ok () b ∧ b.Shows t ∧
      b.capacity = grown a.capacity (a.committed + amount) ∧ b.committed = a.committed := by
  have hgrows := capacity_le_grown a.capacity (a.committed + amount)
  have hcapacity : (a.storage
      ++ List.replicate (grown a.capacity (a.committed + amount) - a.capacity) 0).length
        = grown a.capacity (a.committed + amount) := by
    rw [List.length_append, List.length_replicate, ← capacity]
    omega
  refine ⟨_, reserve_eq_grown hroom, .of_byteAt (fun place => ?_) h.committed ?_, hcapacity, rfl⟩
  · rw [byteAt_grown, h.byteAt]
  · exact Nat.le_trans h.fits (Nat.le_trans hgrows (Nat.le_of_eq hcapacity.symm))

/-- Bytes are written to the tail and committed. -/
lemma append_shows (h : a.Shows t) (hsmall : a.committed + bytes.length ≤ Size.greatest)
    (hroom : a.committed + bytes.length ≤ a.capacity) :
    ∃ b, (do write bytes; commit bytes.length : Run ε Arena Unit) a = .ok () b ∧
      b.Shows (t.append bytes) ∧ b.capacity = a.capacity := by
  have hcapacity := length_overlay hroom
  have hroom' : a.committed + bytes.length ≤ (overlay a.storage a.committed bytes).length :=
    hcapacity.symm ▸ hroom
  have hcommit := commit_eq_ok (ε := ε)
    (a := { a with storage := overlay a.storage a.committed bytes }) hsmall hroom'
  rw [Run.bind_of_ok (write_eq_ok hroom)]
  refine ⟨_, hcommit, ?_, hcapacity⟩
  have hwritten := (h.write hroom).advance hroom'
  rw [h.committed] at hwritten ⊢
  exact hwritten

/-- There is room behind the committed bytes once it was reserved. -/
lemma reserve_append_shows (h : a.Shows t) (hroom : a.CanHold (a.committed + bytes.length)) :
    ∃ b c, (reserve bytes.length : Run ε Arena Unit) a = .ok () b ∧
      b.committed + bytes.length ≤ b.capacity ∧
      (do write bytes; commit bytes.length : Run ε Arena Unit) b = .ok () c ∧
      c.Shows (t.append bytes) ∧
      c.capacity = grown a.capacity (a.committed + bytes.length) := by
  obtain ⟨b, hreserve, hb, hcapacity, hcommitted⟩ := reserve_shows (ε := ε) h hroom
  have hfits : b.committed + bytes.length ≤ b.capacity := by
    rw [hcapacity, hcommitted]
    exact required_le_grown ..
  obtain ⟨c, hrun, hc, hsame⟩ := append_shows (ε := ε) hb (hcommitted ▸ hroom.1) hfits
  exact ⟨b, c, hreserve, hfits, hrun, hc, hsame.trans hcapacity⟩

/-- **An action does to the storage what it does to the tape**, and the storage grows only if it is
too small for what is reserved. -/
theorem Action.run_shows (x : Action) (h : a.Shows t)
    (hsized : a.capacity ≤ Size.greatest) (hinside : x.IsInside a.committed a.capacity)
    (hroom : x.HasRoom a.committed a.capacity) :
    ∃ b, (x.run : Run ε Arena Unit) a = .ok () b ∧ b.Shows (x.effect t) ∧
      b.capacity = grown a.capacity (x.required a.committed) := by
  have hsame : grown a.capacity 0 = a.capacity := if_pos (Nat.zero_le _)
  cases x with
  | reserve amount =>
    obtain ⟨b, hrun, hb, hcapacity, -⟩ := reserve_shows (ε := ε) h hroom
    exact ⟨b, hrun, hb, hcapacity⟩
  | commit amount =>
    have hsmall : a.committed + amount ≤ Size.greatest := Nat.le_trans hinside hsized
    exact ⟨_, commit_eq_ok hsmall hinside, h.advance hinside, hsame.symm⟩
  | reset amount =>
    have hroom' : CanHold { a with committed := 0 } (0 + amount) := by
      rw [Nat.zero_add]
      exact hroom
    obtain ⟨b, hrun, hb, hcapacity, -⟩ := reserve_shows (ε := ε) h.rewind hroom'
    rw [Nat.zero_add] at hcapacity
    exact ⟨b, (Run.bind_of_ok (Run.modify_apply _ _) _).trans hrun, hb, hcapacity⟩
  | extend bytes =>
    obtain ⟨b, c, hreserve, -, hrun, hc, hcapacity⟩ := reserve_append_shows (ε := ε) h hroom
    exact ⟨c, (Run.bind_of_ok hreserve _).trans hrun, hc, hcapacity⟩
  | extendZero amount =>
    have hzeros : (List.replicate amount (0 : UInt8)).length = amount := List.length_replicate
    rw [HasRoom, required, ← hzeros] at hroom
    obtain ⟨b, c, hreserve, hfits, hrun, hc, hcapacity⟩ := reserve_append_shows (ε := ε) h hroom
    rw [hzeros] at hreserve hfits hrun hcapacity
    have hcheck : (checkRoom amount : Run ε Arena Unit) b = .ok () b := if_pos hfits
    refine ⟨c, ?_, hc, hcapacity⟩
    exact (Run.bind_of_ok hreserve _).trans ((Run.bind_of_ok hcheck _).trans hrun)
  | write bytes =>
    exact ⟨_, write_eq_ok hinside, h.committed ▸ h.write hinside,
      (length_overlay hinside).trans hsame.symm⟩
  | patch offset bytes =>
    have hfits := h.fits
    have hstorage : offset + bytes.length ≤ a.capacity := Nat.le_trans hinside hfits
    exact ⟨_, if_pos ⟨hfits, hinside⟩, h.write hstorage,
      (length_overlay hstorage).trans hsame.symm⟩

/-- Storage that grows where there is room stays of a size that there can be. -/
lemma Action.HasRoom.grown_le {x : Action} {committed capacity : Nat}
    (h : x.HasRoom committed capacity) (hsized : capacity ≤ Size.greatest) :
    grown capacity (x.required committed) ≤ Size.greatest := by
  obtain ⟨-, hspace⟩ := h
  unfold grown
  split <;> omega

/-- Where storage would have to grow to more than there can be, an action stops instead, and no byte
is changed. -/
theorem Action.run_of_not_hasRoom (x : Action) (hsmall : x.required a.committed ≤ Size.greatest)
    (hroom : ¬ x.HasRoom a.committed a.capacity) :
    ∃ b, (x.run : Run ε Arena Unit) a = .halted .tooLarge b ∧ b.storage = a.storage := by
  cases x with
  | reserve amount => exact ⟨a, reserve_of_not_canHold hsmall hroom, rfl⟩
  | reset amount =>
    have hstart : (0 + amount : Nat) = amount := Nat.zero_add amount
    have hhalted := reserve_of_not_canHold (ε := ε) (a := { a with committed := 0 })
      (hstart.symm ▸ hsmall) (hstart.symm ▸ hroom)
    exact ⟨_, (Run.bind_of_ok (Run.modify_apply _ _) _).trans hhalted, rfl⟩
  | extend bytes =>
    exact ⟨a, Run.bind_of_halted (reserve_of_not_canHold hsmall hroom) _, rfl⟩
  | extendZero amount =>
    exact ⟨a, Run.bind_of_halted (reserve_of_not_canHold hsmall hroom) _, rfl⟩
  | commit | write | patch =>
    -- nothing is reserved, so there is room
    exact absurd ⟨Nat.zero_le _, .inl (Nat.zero_le _)⟩ hroom

/-! ## Rows of actions -/

/-- What is done to the tape does not depend on what is reserved. -/
lemma tapeAfter_filterMap (actions : List Action) (t : Tape) :
    tapeAfter (actions.filterMap Action.lasting?) t = tapeAfter actions t := by
  induction actions generalizing t with
  | nil => rfl
  | cons x rest ih => cases x <;> exact ih _

/-- A row of actions that is in order succeeds, and does to the storage what it does to the tape. -/
theorem performAll_shows (actions : List Action) (h : a.Shows t)
    (hsized : a.capacity ≤ Size.greatest) (horder : InOrder actions t a.capacity) :
    ∃ b, (performAll actions : Run ε Arena Unit) a = .ok () b ∧ b.Shows (tapeAfter actions t) ∧
      b.capacity = capacityAfter actions t a.capacity ∧ b.capacity ≤ Size.greatest := by
  induction actions generalizing a t with
  | nil => exact ⟨a, rfl, h, rfl, hsized⟩
  | cons x rest ih =>
    obtain ⟨hinside, hroom, hrest⟩ := horder
    rw [← h.committed] at hinside hroom hrest
    obtain ⟨b, hrun, hb, hcapacity⟩ := x.run_shows (ε := ε) h hsized hinside hroom
    rw [← hcapacity] at hrest
    obtain ⟨c, hruns, hc, hcapacity', hsized'⟩ :=
      ih hb (hcapacity ▸ hroom.grown_le hsized) hrest
    refine ⟨c, (Run.bind_of_ok hrun _).trans hruns, hc, ?_, hsized'⟩
    rw [hcapacity', capacityAfter, ← h.committed, hcapacity]

/-- An arena of a given size was opened, and has come to this one after some actions. -/
structure ReachedBy (ε : Type) (initial : Nat) (past : List Action) (a : Arena) : Prop where
  /-- All of the actions have succeeded. -/
  runs : ∃ start, ofCapacity? initial = some start ∧
    (performAll past : Run ε Arena Unit) start = .ok () a
  /-- The storage holds the first bytes of the tape that the same was done to, and no more is
  committed than it holds. -/
  shows_tape : a.Shows (tapeAfter past {})
  /-- The size of the storage is given by what was reserved. -/
  capacity_eq : a.capacity = capacityAfter past {} initial

/-- An arena that was reached by some actions, and what one more of them makes of it. -/
structure GoesOn (ε : Type) (past : List Action) (x : Action) (a b : Arena) : Prop where
  /-- The action succeeds. -/
  run_eq : (x.run : Run ε Arena Unit) a = .ok () b
  /-- The storage holds the first bytes of the tape that the same was done to. -/
  shows_tape : b.Shows (tapeAfter (past ++ [x]) {})
  /-- The storage does not get smaller. -/
  capacity_le : a.capacity ≤ b.capacity
  /-- It grows only if it is too small for what is reserved, and then to twice that. -/
  capacity_eq : b.capacity = grown a.capacity (x.required a.committed)
  /-- Starting over changes no byte. -/
  storage_of_reset : ∀ amount, x = .reset amount → b.storage.take a.capacity = a.storage
  /-- Appended zeros are zeros, whatever was there before. -/
  data_of_extendZero : ∀ amount, x = .extendZero amount →
    b.data = a.data ++ List.replicate amount 0
  /-- As much is committed, and the same bytes, in any arena for which the same was done, whatever
  it was opened with and whenever something was reserved. -/
  data_eq : ∀ initial' actions, initial' ≤ Size.greatest → InOrder actions {} initial' →
    actions.filterMap Action.lasting? = (past ++ [x]).filterMap Action.lasting? →
      ∃ b', ReachedBy ε initial' actions b' ∧ b'.data = b.data

lemma exists_reachedBy {initial : Nat} (actions : List Action) (hinitial : initial ≤ Size.greatest)
    (horder : InOrder actions {} initial) :
    ∃ a, ReachedBy ε initial actions a ∧ a.capacity ≤ Size.greatest := by
  obtain ⟨start, hstart, hshows, rfl⟩ := exists_ofCapacity? hinitial
  obtain ⟨a, hruns, ha, hcapacity, hsized⟩ :=
    performAll_shows (ε := ε) actions hshows hinitial horder
  exact ⟨a, ⟨⟨start, hstart, hruns⟩, ha, hcapacity⟩, hsized⟩

/-- **The storage of an arena is the start of a tape.**  Take an arena that was opened with any
storage there can be, and a row of actions that keep inside the part they may use, where there can
be storage for what they reserve.  All of them succeed, and wherever the row has come to, the
storage holds the first bytes of the tape that the same was done to.  An action behind the row that
keeps inside its part goes on like this if there can be storage for what it reserves.  Otherwise
storage would have to grow to more than there can be, and the action stops and changes no byte. -/
theorem refines_tape {initial : Nat} (past : List Action) (hinitial : initial ≤ Size.greatest)
    (horder : InOrder past {} initial) :
    ∃ a, ReachedBy ε initial past a ∧ ∀ x : Action, x.IsInside a.committed a.capacity →
      x.required a.committed ≤ Size.greatest →
        (x.HasRoom a.committed a.capacity → ∃ b, GoesOn ε past x a b) ∧
        (¬ x.HasRoom a.committed a.capacity →
          ∃ b, (x.run : Run ε Arena Unit) a = .halted .tooLarge b ∧ b.storage = a.storage) := by
  obtain ⟨a, ha, hsized⟩ := exists_reachedBy (ε := ε) past hinitial horder
  refine ⟨a, ha, fun x hinside hsmall => ⟨fun hroom => ?_, x.run_of_not_hasRoom hsmall⟩⟩
  obtain ⟨b, hrun, hb, hgrown⟩ := x.run_shows (ε := ε) ha.shows_tape hsized hinside hroom
  have hgrows : a.capacity ≤ b.capacity := hgrown ▸ capacity_le_grown ..
  have htape : tapeAfter (past ++ [x]) {} = x.effect (tapeAfter past {}) := List.foldl_append
  refine ⟨b, hrun, htape ▸ hb, hgrows, hgrown, ?_, ?_, ?_⟩
  · rintro amount rfl
    rw [hb.storage, Tape.take_first hgrows, ha.shows_tape.storage]
    rfl
  · rintro amount rfl
    rw [hb.data, ha.shows_tape.data]
    exact Tape.first_append ..
  · intro initial' actions hinitial' horder' hsame
    obtain ⟨b', hb', -⟩ := exists_reachedBy (ε := ε) actions hinitial' horder'
    refine ⟨b', hb', ?_⟩
    rw [hb'.shows_tape.data, hb.data, ← htape, ← tapeAfter_filterMap actions, hsame,
      tapeAfter_filterMap]

/-- An arena of four bytes is grown by what is appended, changed at three places and started over.
Three of its old bytes are committed, and then it is grown again.  The same is done to an arena that
had no storage and reserves more than it needs before anything else.  What cannot be reserved in the
end stops the arena as it is. -/
theorem refines_tape_of_reused :
    let past : List Action :=
      [.extend [1, 2, 3, 4, 5], .patch 1 [9], .write [7], .reset 2, .commit 3]
    let actions : List Action :=
      [.reserve 40, .extend [1, 2, 3, 4, 5], .patch 1 [9], .write [7], .reset 90, .commit 3,
        .extendZero 9]
    4 ≤ Size.greatest ∧ InOrder past {} 4 ∧ ∃ a b b', ReachedBy Misuse 4 past a ∧
      GoesOn Misuse past (.extendZero 9) a b ∧ b.data = a.data ++ List.replicate 9 0 ∧
      ReachedBy Misuse 0 actions b' ∧ b'.data = b.data ∧
      ∃ c, (reserve (2 ^ 62) : Run Misuse Arena Unit) a = .halted .tooLarge c ∧
        c.storage = a.storage := by
  intro past actions
  have hinitial : 4 ≤ Size.greatest := by decide
  have horder : InOrder past {} 4 := by decide
  have horder' : InOrder actions {} 0 := by decide
  have hsame : actions.filterMap Action.lasting?
      = (past ++ [Action.extendZero 9]).filterMap Action.lasting? := by decide
  obtain ⟨a, ha, hgoes⟩ := refines_tape (ε := Misuse) past hinitial horder
  have hcommitted : a.committed = 3 := ha.shows_tape.committed.trans (by decide)
  have hcapacity : a.capacity = 10 := ha.capacity_eq.trans (by decide)
  rw [hcommitted, hcapacity] at hgoes
  obtain ⟨b, hb⟩ := (hgoes (.extendZero 9) trivial (by decide)).1 (by decide)
  obtain ⟨b', hb', hdata⟩ := hb.data_eq 0 actions (Nat.zero_le _) horder' hsame
  have hstops := (hgoes (.reserve (2 ^ 62)) trivial (by decide)).2 (by decide)
  exact ⟨hinitial, horder, a, b, b', ha, hb, hb.data_of_extendZero 9 rfl, hb', hdata, hstops⟩

/-- A fresh arena cannot be extended by `2 ^ 62` zeros, although there can be storage for so many:
it would have to grow to twice as many bytes, which is more than there can be. -/
theorem extendZero_without_room :
    ofCapacity? 0 = some {} ∧ (Action.extendZero (2 ^ 62)).required 0 < 2 ^ 63 ∧
      (Action.extendZero (2 ^ 62)).IsInside 0 0 ∧
      ∃ b, (extendZero (2 ^ 62) : Run Misuse Arena Unit) {} = .halted .tooLarge b := by
  obtain ⟨b, hhalted, -⟩ :=
    Action.run_of_not_hasRoom (ε := Misuse) (a := {}) (.extendZero (2 ^ 62)) (by decide) (by decide)
  exact ⟨rfl, by decide, trivial, b, hhalted⟩

end Arena

end Rtnetlink
