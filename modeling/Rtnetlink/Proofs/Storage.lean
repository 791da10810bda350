import Rtnetlink.Proofs.Receiving
import Rtnetlink.Proofs.Outline

/-!
# Storage never gets too large

No step asks for more storage than there can be: one that would have to stops instead.  So the
storage of a session that was opened stays of a size that can be counted, whatever is done with it.

* `Run.Maintains`: a run keeps a property of its state, however it ends;
* `Session.Sized`: the storage, and what is reserved for sending, is of such a size.
-/

namespace Rtnetlink

open LittleEndian

namespace Run

variable {ε δ σ τ α β : Type} {P : σ → Prop}

/-- The run keeps the property of its state, however it ends. -/
def Maintains (P : σ → Prop) (run : Run ε σ α) : Prop := ∀ s, P s → P (run s).state

lemma maintains_pure (value : α) : Maintains P (pure value : Run ε σ α) := fun _ h => h

lemma maintains_state : Maintains P (state : Run ε σ σ) := fun _ h => h

lemma maintains_refuse (cause : ε) : Maintains P (refuse cause : Run ε σ α) := fun _ h => h

lemma maintains_halt (fault : Fault) : Maintains P (halt fault : Run ε σ α) := fun _ h => h

lemma maintains_modify {change : σ → σ} (h : ∀ s, P s → P (change s)) :
    Maintains P (modify change : Run ε σ Unit) := h

lemma maintains_read? (look? : σ → Option α) : Maintains P (read? look? : Run ε σ α) := by
  intro s hs
  unfold read?
  split <;> exact hs

lemma Maintains.bind {first : Run ε σ α} {next : α → Run ε σ β} (h : Maintains P first)
    (h' : ∀ value, Maintains P (next value)) : Maintains P (first >>= next) := by
  intro s hs
  have hfirst := h s hs
  rw [bind_apply]
  generalize first s = o at hfirst
  cases o with
  | ok value t => exact h' value t hfirst
  | refused => exact hfirst
  | halted => exact hfirst

lemma Maintains.attempt {run : Run ε σ α} (h : Maintains P run) :
    Maintains P (Run.attempt run : Run δ σ (Except ε α)) := by
  intro s hs
  have hrun := h s hs
  unfold Run.attempt
  generalize run s = o at hrun
  cases o <;> exact hrun

lemma Maintains.mapCause {run : Run ε σ α} (h : Maintains P run) (restate : ε → δ) :
    Maintains P (Run.mapCause restate run) := by
  intro s hs
  have hrun := h s hs
  unfold Run.mapCause
  generalize run s = o at hrun
  cases o <;> exact hrun

lemma Maintains.onHalt {last : Run ε σ Unit} {run : Run ε σ α} (h : Maintains P run)
    (hlast : Maintains P last) : Maintains P (Run.onHalt last run) := by
  intro s hs
  have hrun := h s hs
  unfold Run.onHalt
  generalize run s = o at hrun
  cases o with
  | halted fault t => exact hlast t hrun
  | ok => exact hrun
  | refused => exact hrun

lemma Maintains.within {Q : τ → Prop} {part : σ → τ} {put : τ → σ → σ} {run : Run ε τ α}
    (h : Maintains Q run) (hpart : ∀ s, P s → Q (part s)) (hput : ∀ s t, P s → Q t → P (put t s)) :
    Maintains P (Run.within part put run) := by
  intro s hs
  have hrun := h (part s) (hpart s hs)
  unfold Run.within
  generalize run (part s) = o at hrun
  cases o <;> exact hput s _ hs hrun

end Run

/-! ## Storage is never too large -/

namespace Arena

variable {ε : Type}

/-- The storage is no larger than any can be. -/
def Sized (a : Arena) : Prop := a.capacity ≤ Size.greatest

lemma maintains_reserve (amount : Nat) :
    Run.Maintains Sized (reserve amount : Run ε Arena Unit) := by
  intro a ha
  unfold reserve
  dsimp only
  split
  · exact ha
  · split
    · exact ha
    · next hsmall =>
      show (resized a.storage _).length ≤ _
      rw [length_resized]
      exact Nat.le_of_not_lt hsmall

lemma maintains_commit (amount : Nat) : Run.Maintains Sized (commit amount : Run ε Arena Unit) := by
  intro a ha
  unfold commit
  dsimp only
  split <;> exact ha

lemma maintains_checkRoom (amount : Nat) :
    Run.Maintains Sized (checkRoom amount : Run ε Arena Unit) := by
  intro a ha
  unfold checkRoom
  split <;> exact ha

/-- Bytes that are written inside the storage do not make it larger. -/
lemma sized_overlay {a : Arena} {offset : Nat} {bytes : List UInt8} (ha : a.Sized)
    (hinside : offset + bytes.length ≤ a.capacity) :
    Sized { a with storage := overlay a.storage offset bytes } := by
  show (overlay a.storage offset bytes).length ≤ _
  rw [length_overlay hinside]
  exact ha

lemma maintains_patch (offset : Nat) (bytes : List UInt8) :
    Run.Maintains Sized (patch offset bytes : Run ε Arena Unit) := by
  intro a ha
  unfold patch
  split
  · next hinside => exact sized_overlay ha (Nat.le_trans hinside.2 hinside.1)
  · exact ha

lemma maintains_write (bytes : List UInt8) :
    Run.Maintains Sized (write bytes : Run ε Arena Unit) := by
  intro a ha
  rw [write, Run.bind_apply, checkRoom]
  by_cases hroom : a.committed + bytes.length ≤ a.capacity
  · rw [if_pos hroom]
    exact sized_overlay ha hroom
  · rw [if_neg hroom]
    exact ha

lemma maintains_extend (bytes : List UInt8) :
    Run.Maintains Sized (extend bytes : Run ε Arena Unit) :=
  (maintains_reserve _).bind fun _ => (maintains_write _).bind fun _ => maintains_commit _

lemma maintains_lay (cells : List Cell) : Run.Maintains Sized (lay cells : Run ε Arena Unit) :=
  (maintains_reserve _).bind fun _ => Run.maintains_state.bind fun _ =>
    (maintains_write _).bind fun _ => maintains_commit _

lemma maintains_extendZero (amount : Nat) :
    Run.Maintains Sized (extendZero amount : Run ε Arena Unit) :=
  (maintains_reserve _).bind fun _ => (maintains_checkRoom _).bind fun _ =>
    (maintains_write _).bind fun _ => maintains_commit _

lemma maintains_reset (amount : Nat) : Run.Maintains Sized (reset amount : Run ε Arena Unit) :=
  Run.Maintains.bind (Run.maintains_modify fun _ h => h) fun _ => maintains_reserve _

end Arena

namespace Draft

variable {ε : Type}

/-- The storage of the draft is no larger than any can be. -/
def Sized (d : Draft) : Prop := d.arena.Sized

lemma maintains_onArena {run : Run ε Arena Unit} (h : Run.Maintains Arena.Sized run) :
    Run.Maintains Sized (onArena run) :=
  h.within (fun _ hd => hd) fun _ _ _ ha => ha

lemma maintains_start (header : Header) (room : Nat) :
    Run.Maintains Sized (start header room : Run ε Draft Unit) :=
  (maintains_onArena (Arena.maintains_reset _)).bind fun _ =>
    Run.Maintains.bind (Run.maintains_modify fun _ h => h) fun _ =>
      (maintains_onArena (Arena.maintains_write _)).bind fun _ =>
        maintains_onArena (Arena.maintains_commit _)

lemma maintains_append (bytes : List UInt8) :
    Run.Maintains Sized (append bytes : Run ε Draft Unit) :=
  maintains_onArena (Arena.maintains_extend bytes)

lemma maintains_appendCells (cells : List Cell) :
    Run.Maintains Sized (appendCells cells : Run ε Draft Unit) :=
  maintains_onArena (Arena.maintains_lay cells)

lemma maintains_openAttribute (kind : UInt16) : Run.Maintains Sized (openAttribute kind) := by
  refine Run.maintains_state.bind fun d => ?_
  split
  · exact Run.maintains_refuse _
  · exact (maintains_append _).bind fun _ => Run.maintains_modify fun _ h => h

lemma maintains_closeAttribute : Run.Maintains Sized closeAttribute := by
  refine Run.maintains_state.bind fun d => ?_
  split
  · exact Run.maintains_refuse _
  · refine (Run.maintains_read? _).bind fun length => ?_
    split
    · exact Run.maintains_refuse _
    · exact Run.Maintains.bind (Run.maintains_modify fun _ h => h) fun _ =>
        (maintains_onArena (Arena.maintains_patch _ _)).bind fun _ =>
          maintains_onArena (Arena.maintains_extendZero _)

lemma maintains_closeDown (level : Nat) : (count : Nat) →
    Run.Maintains Sized (closeDown level count)
  | 0 => Run.maintains_pure _
  | count + 1 => by
    refine Run.maintains_state.bind fun d => ?_
    split
    · exact Run.maintains_pure _
    · refine maintains_closeAttribute.attempt.bind fun result => ?_
      cases result with
      | error => exact Run.maintains_pure _
      | ok => exact maintains_closeDown level count

lemma maintains_closeFrom (level : Nat) : Run.Maintains Sized (closeFrom level) :=
  Run.maintains_state.bind fun d => maintains_closeDown level d.depth

lemma maintains_addAttribute (kind : UInt16) (value : List UInt8) :
    Run.Maintains Sized (addAttribute kind value) :=
  (maintains_openAttribute kind).bind fun _ => (maintains_append value).bind fun _ =>
    maintains_closeAttribute

lemma maintains_addAttributeCells (kind : UInt16) (cells : List Cell) :
    Run.Maintains Sized (addAttributeCells kind cells) :=
  (maintains_openAttribute kind).bind fun _ => (maintains_appendCells cells).bind fun _ =>
    maintains_closeAttribute

lemma maintains_nest {kind : UInt16} {body : Run Misuse Draft Unit}
    (h : Run.Maintains Sized body) : Run.Maintains Sized (nest kind body) := by
  refine (maintains_openAttribute kind).bind fun _ => Run.maintains_state.bind fun d =>
    h.attempt.bind fun result => (maintains_closeFrom d.depth).bind fun _ => ?_
  cases result with
  | error cause => exact Run.maintains_refuse cause
  | ok value => exact Run.maintains_pure value

lemma maintains_stampLength : Run.Maintains Sized (stampLength : Run ε Draft Unit) :=
  Run.maintains_state.bind fun _ => maintains_onArena (Arena.maintains_patch _ _)

end Draft

open Draft in
lemma Edit.maintains_run (e : Edit) : Run.Maintains Draft.Sized e.run := by
  cases e with
  | append bytes => exact maintains_append bytes
  | appendCells cells => exact maintains_appendCells cells
  | openAttribute kind => exact maintains_openAttribute kind
  | closeAttribute => exact maintains_closeAttribute
  | addAttribute kind value => exact maintains_addAttribute kind value
  | addAttributeCells kind cells => exact maintains_addAttributeCells kind cells
  | closeFrom level => exact maintains_closeFrom level

/-! ## Sessions -/

namespace Session

variable {ε : Type}

/-- The storage of the session, and what it reserves for sending, is no larger than any storage can
be. -/
def Sized (s : Session) : Prop := s.draft.Sized ∧ s.options.sendBufferSize ≤ Size.greatest

/-- A session is opened like this. -/
lemma sized_of_ofChannel? {channel : Channel} {portId : UInt32} {options : SessionOptions}
    {s : Session} (h : ofChannel? channel portId options = some s) : s.Sized := by
  rw [ofChannel?, Option.map_eq_some_iff] at h
  obtain ⟨arena, harena, rfl⟩ := h
  rw [Arena.ofCapacity?] at harena
  split at harena
  · cases harena
  · next hsmall =>
    cases harena
    refine ⟨?_, Nat.le_of_not_lt hsmall⟩
    show (List.replicate options.sendBufferSize (0 : UInt8)).length ≤ _
    rw [List.length_replicate]
    exact Nat.le_of_not_lt hsmall

lemma maintains_onDraft {α : Type} {run : Run ε Draft α} (h : Run.Maintains Draft.Sized run) :
    Run.Maintains Sized (onDraft run) :=
  h.within (fun _ hs => hs.1) fun _ _ hs hd => ⟨hd, hs.2⟩

lemma maintains_compose {run : Run Misuse Draft Unit} (h : Run.Maintains Draft.Sized run) :
    Run.Maintains Sized (compose run) :=
  (maintains_onDraft h).mapCause _

lemma maintains_begin (type flags : UInt16) :
    Run.Maintains Sized (begin type flags : Run ε Session Unit) :=
  Run.maintains_state.bind fun _ => Run.Maintains.bind (Run.maintains_modify fun _ h => h) fun _ =>
    maintains_onDraft (Draft.maintains_start _ _)

lemma maintains_deliver : Run.Maintains Sized deliver := by
  intro s hs
  unfold deliver
  split <;> exact hs

lemma maintains_transmit : Run.Maintains Sized transmit := by
  refine Run.maintains_state.bind fun s => ?_
  split
  · exact Run.maintains_refuse _
  · refine (maintains_onDraft Draft.maintains_stampLength).bind fun _ =>
      Run.maintains_state.bind fun s => ?_
    split
    · exact Run.maintains_refuse _
    · exact maintains_deliver.bind fun _ => Run.maintains_pure _

lemma maintains_clearForReceiving :
    Run.Maintains Sized (clearForReceiving : Run ε Session Unit) :=
  Run.maintains_state.bind fun _ =>
    maintains_onDraft (Draft.maintains_onArena (Arena.maintains_reset _))

lemma maintains_sendAcked : Run.Maintains Sized sendAcked :=
  maintains_transmit.bind fun _ => maintains_clearForReceiving.bind fun _ =>
    Run.maintains_state.bind fun _ => Run.maintains_pure _

end Session

end Rtnetlink
