import Mathlib.Tactic.Common
import Rtnetlink.Draft
import Rtnetlink.Proofs.Encoding
import Rtnetlink.Proofs.Runs

/-!
# Room in an arena

Bytes can be committed where the storage has room for them or can be grown.  An arena step that is
given such room succeeds, and says what it does to the storage; without it, reserving stops the run
before anything is written.

* `Arena.CanHold`: there is room for so many bytes, or it can be grown;
* `Arena.reserve_eq_ok`, `Arena.reserve_of_not_canHold`: reserving with room and without;
* `Draft.onArena_eq_ok`, `Draft.closeAttribute_eq`: the steps of a draft by those of its arena.
-/

namespace Rtnetlink

open LittleEndian

lemma Size.wrap_of_lt {n : Nat} (h : n < count) : wrap n = n := Nat.mod_eq_of_lt h

lemma Size.wrap_of_le_greatest {n : Nat} (h : n ≤ greatest) : wrap n = n :=
  wrap_of_lt (Nat.lt_of_le_of_lt h (by decide))

namespace Arena

variable {ε : Type} {a b a' : Arena} {amount length more offset : Nat} {bytes : List UInt8}

lemma length_data (hfits : a.committed ≤ a.capacity) : a.data.length = a.committed := by
  simp only [capacity] at hfits
  simp [data, Nat.min_eq_left hfits]

/-- Whether `amount` more bytes can be reserved without any size starting over. -/
def HasSpace (a : Arena) (amount : Nat) : Prop := (a.committed + amount) * 2 ≤ Size.greatest

/-- Whether so many bytes can be committed: they fit into the storage, or it can grow for them. -/
def CanHold (a : Arena) (length : Nat) : Prop :=
  length ≤ Size.greatest ∧ (length ≤ a.capacity ∨ length * 2 ≤ Size.greatest)

instance (a : Arena) (length : Nat) : Decidable (a.CanHold length) :=
  inferInstanceAs (Decidable (_ ∧ _))

lemma HasSpace.canHold (h : a.HasSpace amount) : a.CanHold (a.committed + amount) := by
  simp only [HasSpace] at h
  exact ⟨by omega, .inr h⟩

lemma CanHold.mono (h : a.CanHold more) (hshorter : length ≤ more)
    (hgrown : a.capacity ≤ b.capacity) : b.CanHold length := by
  obtain ⟨hsmall, hroom⟩ := h
  exact ⟨by omega, by omega⟩

/-! ## Steps that have room -/

/-- Reserving makes room for what was asked, and only adds zeros. -/
lemma reserve_eq_ok (h : a.CanHold (a.committed + amount)) :
    ∃ zeros, a.committed + amount ≤ a.capacity + zeros ∧ (reserve amount : Run ε Arena Unit) a
      = .ok () { a with storage := a.storage ++ List.replicate zeros 0 } := by
  obtain ⟨hsmall, hspace⟩ := h
  unfold reserve
  simp only [Size.wrap_of_le_greatest hsmall]
  by_cases hroom : a.committed + amount ≤ a.capacity
  · exact ⟨0, hroom, by simp [hroom]⟩
  · have hdouble : (a.committed + amount) * 2 ≤ Size.greatest := by omega
    rw [Size.wrap_of_le_greatest hdouble]
    refine ⟨(a.committed + amount) * 2 - a.capacity, by omega, ?_⟩
    have hkeep : a.storage.take ((a.committed + amount) * 2) = a.storage :=
      List.take_of_length_le (by simp only [capacity] at hroom; omega)
    rw [if_neg hroom, if_neg (Nat.not_lt.2 hdouble), resized, hkeep, capacity]

lemma write_eq_ok (hroom : a.committed + bytes.length ≤ a.capacity) :
    (write bytes : Run ε Arena Unit) a
      = .ok () { a with storage := overlay a.storage a.committed bytes } := by
  have hcheck : (checkRoom bytes.length : Run ε Arena Unit) a = .ok () a := by
    simp [checkRoom, hroom]
  rw [write, Run.bind_of_ok hcheck, Run.modify_apply]

lemma commit_eq_ok (hsmall : a.committed + amount ≤ Size.greatest)
    (hroom : a.committed + amount ≤ a.capacity) :
    (commit amount : Run ε Arena Unit) a
      = .ok () { a with committed := a.committed + amount } := by
  simp [commit, Size.wrap_of_le_greatest hsmall, hroom]

/-- Patching writes over committed bytes. -/
lemma data_of_patch (h : (patch offset bytes : Run ε Arena Unit) a = .ok () a') :
    a'.data = overlay a.data offset bytes := by
  unfold patch at h
  split at h
  · next hinside =>
    cases h
    obtain ⟨hfits, hinside⟩ := hinside
    simp only [data, overlay, List.take_append, List.take_take, List.length_take,
      List.length_append, List.drop_take, capacity] at hfits ⊢
    rw [Nat.min_eq_left (by omega : offset ≤ a.committed),
      Nat.min_eq_right (by omega : offset ≤ a.committed),
      Nat.min_eq_left (by omega : offset ≤ a.storage.length),
      List.take_of_length_le (by omega : bytes.length ≤ a.committed - offset), Nat.sub_add_eq]
  · cases h

/-! ## Steps that have none -/

/-- Without room for what is needed, reserving stops. -/
lemma reserve_of_not_canHold (hsmall : a.committed + amount ≤ Size.greatest)
    (h : ¬ a.CanHold (a.committed + amount)) :
    (reserve amount : Run ε Arena Unit) a = .halted .tooLarge a := by
  have hroom : ¬ a.committed + amount ≤ a.capacity := fun hroom => h ⟨hsmall, .inl hroom⟩
  have hdouble : ¬ (a.committed + amount) * 2 ≤ Size.greatest := fun hdouble =>
    h ⟨hsmall, .inr hdouble⟩
  have hwrap : Size.wrap ((a.committed + amount) * 2) = (a.committed + amount) * 2 := by
    apply Size.wrap_of_lt
    simp only [Size.greatest, Size.count] at hsmall ⊢
    omega
  unfold reserve
  simp only [Size.wrap_of_le_greatest hsmall, hwrap, if_neg hroom,
    if_pos (Nat.lt_of_not_le hdouble)]

/-! ## No arena step is refused -/

lemma unrefused_reserve (amount : Nat) : Run.Unrefused (reserve amount : Run ε Arena Unit) := by
  intro a cause a' h
  unfold reserve at h
  dsimp only at h
  split at h
  · cases h
  · split at h <;> cases h

lemma unrefused_reset (amount : Nat) : Run.Unrefused (reset amount : Run ε Arena Unit) :=
  (Run.unrefused_modify _).bind fun _ => unrefused_reserve _

lemma unrefused_commit (amount : Nat) : Run.Unrefused (commit amount : Run ε Arena Unit) := by
  intro a cause a' h
  unfold commit at h
  dsimp only at h
  split at h <;> cases h

lemma unrefused_checkRoom (amount : Nat) : Run.Unrefused (checkRoom amount : Run ε Arena Unit) := by
  intro a cause a' h
  unfold checkRoom at h
  split at h <;> cases h

lemma unrefused_patch (offset : Nat) (bytes : List UInt8) :
    Run.Unrefused (patch offset bytes : Run ε Arena Unit) := by
  intro a cause a' h
  unfold patch at h
  split at h <;> cases h

lemma unrefused_write (bytes : List UInt8) : Run.Unrefused (write bytes : Run ε Arena Unit) :=
  (unrefused_checkRoom _).bind fun _ => Run.unrefused_modify _

lemma unrefused_extend (bytes : List UInt8) : Run.Unrefused (extend bytes : Run ε Arena Unit) :=
  (unrefused_reserve _).bind fun _ => (unrefused_write _).bind fun _ => unrefused_commit _

lemma unrefused_extendZero (amount : Nat) :
    Run.Unrefused (extendZero amount : Run ε Arena Unit) :=
  (unrefused_reserve _).bind fun _ => (unrefused_checkRoom _).bind fun _ =>
    (unrefused_write _).bind fun _ => unrefused_commit _

end Arena

namespace Draft

variable {ε : Type} {d d' : Draft} {mark : Nat} {kind : UInt16}

lemma onArena_eq_ok {run : Run ε Arena Unit} : (onArena run : Run ε Draft Unit) d = .ok () d'
    ↔ ∃ arena, run d.arena = .ok () arena ∧ { d with arena } = d' :=
  Run.within_eq_ok

lemma onArena_of_halted {run : Run ε Arena Unit} {fault : Fault} {a : Arena}
    (h : run d.arena = .halted fault a) :
    (onArena run : Run ε Draft Unit) d = .halted fault { d with arena := a } := by
  rw [onArena, Run.within, h]

lemma lengthFrom_of_le (h : mark ≤ d.length) :
    (lengthFrom mark : Run ε Draft Nat) d = .ok (d.length - mark) d := by
  rw [lengthFrom, Run.read?_eq_ok, if_pos h]
  exact ⟨rfl, rfl⟩

lemma lengthFrom_of_lt (h : d.length < mark) :
    (lengthFrom mark : Run ε Draft Nat) d = .halted .outOfRange d := by
  simp only [lengthFrom, Run.read?, if_neg (Nat.not_le.2 h)]

/-- At the greatest depth, opening is refused and leaves the draft alone. -/
lemma openAttribute_of_maxDepth_le (hdepth : maxDepth ≤ d.depth) :
    openAttribute kind d = .refused (.tooDeep maxDepth) d := by
  rw [openAttribute, Run.bind_of_ok (Run.state_apply d), if_pos hdepth, Run.refuse_apply]

/-- An attribute that is not too long gets its length written back, and what is left of closing it
is the padding. -/
lemma closeAttribute_eq {outer : List Nat} {b : Arena} (hmarks : d.marks = mark :: outer)
    (hinside : mark ≤ d.length) (hlength : d.length - mark ≤ maxAttributeLength)
    (hpatch : (Arena.patch mark (ofU16 (UInt16.ofNat (d.length - mark))) : Run Misuse Arena Unit)
      d.arena = .ok () b) :
    closeAttribute d = (onArena (Arena.extendZero (align d.length - d.length)) :
      Run Misuse Draft Unit) { arena := b, marks := outer } := by
  have hstamp : (onArena (Arena.patch mark (ofU16 (UInt16.ofNat (d.length - mark)))) :
      Run Misuse Draft Unit) { d with marks := outer } = .ok () { arena := b, marks := outer } :=
    onArena_eq_ok.2 ⟨b, hpatch, rfl⟩
  rw [closeAttribute, Run.bind_of_ok (Run.state_apply d)]
  simp only [hmarks]
  rw [Run.bind_of_ok (lengthFrom_of_le hinside), if_neg (Nat.not_lt.2 hlength),
    Run.bind_of_ok (Run.modify_apply _ _), Run.bind_of_ok hstamp]

end Draft

end Rtnetlink
