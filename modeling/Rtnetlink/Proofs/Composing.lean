import Rtnetlink.Proofs.Editing
import Rtnetlink.Proofs.Sending

/-!
# Composing a message

Beginning a message leaves a draft that holds nothing but a header.  From there on every edit, made
or refused, keeps the draft in order: the open attributes stand in a row behind the header, and all
that an edit changes in front of the old end of the message is the lengths of the attributes it
closes.

* `Session.begin_eq_ok`: what beginning a message leaves, whatever was staged and received before;
* `Session.stages_of_edits`: what a row of edits makes of it;
* `Session.orderly_of_edits`: a draft that is being composed is in order, and stays in its frame.
-/

namespace Rtnetlink

open LittleEndian

namespace Arena

variable {ε : Type} {a a' : Arena}

/-- Starting over commits nothing. -/
lemma committed_of_reset {room : Nat} (h : (reset room : Run ε Arena Unit) a = .ok () a') :
    a'.committed = 0 := by
  rw [reset, Run.bind_of_ok (Run.modify_apply _ _)] at h
  simp only [reserve] at h
  split at h
  · cases h
    rfl
  · split at h <;> cases h
    rfl

/-- Bytes that were written and committed where nothing was are all there is. -/
lemma data_of_write {bytes : List UInt8} (hzero : a.committed = 0)
    (hsmall : bytes.length ≤ Size.greatest)
    (h : (do write bytes; commit bytes.length : Run ε Arena Unit) a = .ok () a') :
    a'.data = bytes ∧ a'.committed ≤ a'.capacity := by
  obtain ⟨⟨⟩, b, hwrite, hcommit⟩ := Run.bind_eq_ok.1 h
  obtain ⟨⟨⟩, c, hcheck, hmodify⟩ := Run.bind_eq_ok.1 hwrite
  rw [checkRoom] at hcheck
  split at hcheck
  · next hroom =>
    cases hcheck
    cases hmodify
    simp only [commit, hzero, Nat.zero_add, Size.wrap_of_le_greatest hsmall] at hcommit
    split at hcommit
    · next hfits =>
      cases hcommit
      refine ⟨?_, hfits⟩
      simp only [data, overlay, List.take_zero, List.nil_append]
      exact List.take_left
    · cases hcommit
  · cases hcheck

end Arena

namespace Outline

variable {tape : Nat → UInt8} {o o' : Outline} {closed : List Span}

/-- A message that is no more than its header is in order. -/
lemma intact_header (h : Header) : Outline.Intact { bytes := h.encode } :=
  Nested.intact ⟨Nat.le_refl _, Nat.zero_le _, by simp, by simp, .nil⟩ rfl

/-- The header of the message stays as it was begun. -/
lemma Framed.take_header (h : o.Framed closed o') (ho : Header.size ≤ o.length)
    (ho' : o'.Intact) : o'.bytes.take Header.size = o.bytes.take Header.size := by
  have hclosed : ∀ span ∈ closed, Header.size ≤ span.start := fun span hspan =>
    ho'.header_le_start span (h.spans_eq ▸ List.mem_append_left _ hspan)
  have hsame : ∀ i, 0 ≤ i → i < 0 + Header.size → o'.bytes[i]? = o.bytes[i]? := by
    intro i _ hi
    refine h.kept i (by omega) fun span hspan => ?_
    have hstart := hclosed span hspan
    omega
  exact take_drop_congr hsame

/-- However a message is continued, it starts with the header that it was begun with. -/
lemma Changes.bytes_eq {h : Header} (hchanges : Changes tape { bytes := h.encode } o) :
    o.bytes = h.encode ++ o.bytes.drop Header.size := by
  have hstart := intact_header h
  obtain ⟨closed, hframed⟩ := hchanges.framed hstart
  have hheader : o.bytes.take Header.size = h.encode :=
    hframed.take_header hstart.header_le (hchanges.intact hstart)
  rw [← hheader, List.take_append_drop]

end Outline

namespace Draft

/-- A draft in order, and what comes of editing it. -/
structure Orderly (d : Draft) : Prop where
  /-- The message lies within the storage. -/
  fits : d.arena.committed ≤ d.arena.capacity
  /-- Its open attributes are few enough and stand in a row behind the header. -/
  nested : d.outline.Nested
  /-- An edit that has room ends as its effect says.  All it changes in front of the old end is the
  lengths of the attributes it closes, which are then true. -/
  edit : ∀ e : Edit, d.arena.CanHold (e.effect d.arena.byteAt d.outline).2.length →
    Follows (fun d' o => d'.bytes = o.bytes ∧ d'.marks = o.marks ∧ d.outline.Framed o.spans o ∧
      o.Intact) (e.effect d.arena.byteAt d.outline) (e.run d)
  /-- Opening is refused exactly at the greatest depth, and changes nothing then. -/
  openAttribute_refused : ∀ kind cause d', openAttribute kind d = .refused cause d' ↔
    d.depth = maxDepth ∧ cause = .tooDeep maxDepth ∧ d' = d
  /-- Closing is refused exactly where nothing is open or the attribute opened last is too long, and
  changes nothing then. -/
  closeAttribute_refused : ∀ cause d', closeAttribute d = .refused cause d' ↔
    d' = d ∧ (d.marks = [] ∧ cause = .noneOpen ∨ ∃ mark outer, d.marks = mark :: outer ∧
      maxAttributeLength < d.length - mark ∧ cause = .tooLong (d.length - mark))
  /-- So is opening an attribute that closes by itself, whatever would be done inside it. -/
  nest_refused : ∀ {α : Type} kind (body : Run Misuse Draft α), d.depth = maxDepth →
    nest kind body d = .refused (.tooDeep maxDepth) d
  /-- Below the greatest depth it is opened and closed like any other. -/
  nest_eq : ∀ kind inner, d.depth ≠ maxDepth → nest kind (editAll inner) d
    = editAll (.openAttribute kind :: (inner ++ [.closeFrom (d.depth + 1)])) d

variable {tape : Nat → UInt8} {limit : Nat} {d : Draft} {o : Outline}

/-- A draft that stages an outline is in order. -/
lemma Stages.orderly (h : d.Stages tape limit o) : d.Orderly where
  fits := h.fits
  nested := h.nested
  edit e hroom := by
    obtain ⟨d', hd', hend⟩ :=
      e.run_follows (stages_outline h.fits hroom h.nested) (Nat.le_refl _)
    obtain ⟨closed, hframed⟩ := (Outline.changes_effect d.arena.byteAt e d.outline).framed
      (h.nested.intact rfl)
    have hspans : (e.effect d.arena.byteAt d.outline).2.spans = closed :=
      hframed.spans_eq.trans (List.append_nil _)
    exact ⟨d', ⟨hd'.bytes_eq, hd'.marks_eq, hspans ▸ hframed, hd'.intact⟩, hend⟩
  openAttribute_refused kind cause d' := by
    have hdepth : d.depth ≤ maxDepth := h.nested.depth_le
    rw [openAttribute_eq_refused, Nat.le_antisymm_iff, and_iff_right hdepth]
  closeAttribute_refused cause d' := closeAttribute_eq_refused
  nest_refused kind body hdepth :=
    Run.bind_of_refused (openAttribute_of_maxDepth_le (Nat.le_of_eq hdepth.symm)) _
  nest_eq kind inner hdepth := nest_editAll kind inner (Nat.lt_of_le_of_ne h.nested.depth_le hdepth)

end Draft

namespace Session

variable {ε : Type} {s s₁ : Session} {type flags : UInt16}

/-- Once a message was begun, its draft holds its header alone. -/
lemma begin_eq_ok (h : (begin type flags : Run ε Session Unit) s = .ok () s₁) :
    s₁ = { s with nextSequence := s.nextSequence + 1, draft := s₁.draft } ∧
      s₁.draft.arena.committed ≤ s₁.draft.arena.capacity ∧
      s₁.draft.outline = { bytes := (s.header type flags).encode } := by
  rw [begin, Run.bind_of_ok (Run.state_apply s), Run.bind_of_ok (Run.modify_apply _ _)] at h
  obtain ⟨d, hstart, rfl⟩ := onDraft_eq_ok.1 h
  obtain ⟨⟨⟩, d₁, hfirst, hrest⟩ := Run.bind_eq_ok.1 hstart
  obtain ⟨a₁, hreset, rfl⟩ := Draft.onArena_eq_ok.1 hfirst
  rw [Run.bind_of_ok (Run.modify_apply _ _)] at hrest
  obtain ⟨⟨⟩, d₂, hsecond, hlast⟩ := Run.bind_eq_ok.1 hrest
  obtain ⟨a₂, hwrite, rfl⟩ := Draft.onArena_eq_ok.1 hsecond
  obtain ⟨a₃, hcommit, rfl⟩ := Draft.onArena_eq_ok.1 hlast
  have hsmall : (s.header type flags).encode.length ≤ Size.greatest := by
    rw [Header.length_encode]
    decide
  obtain ⟨hdata, hfits⟩ := Arena.data_of_write (Arena.committed_of_reset hreset) hsmall
    (Run.bind_eq_ok.2 ⟨(), a₂, hwrite, hcommit⟩)
  exact ⟨rfl, hfits, congrArg (Outline.mk · [] []) hdata⟩

/-- The session ends as its draft does. -/
lemma compose_of_follows {R : Draft → Outline → Prop} {effect : Option Misuse × Outline}
    {run : Run Misuse Draft Unit} (h : Draft.Follows R effect (run s.draft)) :
    ∃ d, R d effect.2 ∧ compose run s = match effect.1 with
      | none => .ok () { s with draft := d }
      | some cause => .refused (.misuse cause) { s with draft := d } := by
  obtain ⟨d, hd, hrun⟩ := h
  refine ⟨d, hd, ?_⟩
  rw [compose, Run.mapCause, onDraft, Run.within, hrun]
  rcases effect.1 with _ | cause <;> rfl

section Begun

variable (hbegin : (begin type flags : Run ε Session Unit) s = .ok () s₁)
include hbegin

/-- A message that was begun is staged on the storage behind its header. -/
lemma stages_of_begin {limit : Nat} (hroom : s₁.draft.arena.CanHold limit) :
    s₁.draft.Stages s₁.draft.arena.byteAt limit s₁.draft.outline := by
  obtain ⟨-, hfits, houtline⟩ := begin_eq_ok hbegin
  refine Draft.stages_outline hfits hroom ?_
  rw [houtline]
  exact (Outline.intact_header _).toNested

/-- Whatever edits are made next, refused ones among them, they come to what their effects say. -/
lemma stages_of_edits {δ : Type} (edits : List Edit) {limit : Nat}
    (hroom : s₁.draft.arena.CanHold limit)
    (hlimit : (s₁.draft.outline.edited s₁.draft.arena.byteAt edits).length ≤ limit) :
    ∃ d, (Draft.editAll edits : Run δ Draft Unit) s₁.draft = .ok () d ∧
      d.Stages s₁.draft.arena.byteAt limit
        (s₁.draft.outline.edited s₁.draft.arena.byteAt edits) :=
  (stages_of_begin hbegin hroom).editAll edits hlimit

/-- **Composing keeps a message in order.**  After any edits that have room, refused ones among
them, the draft of a message that was begun is in order, and so is what every further edit leaves of
it. -/
theorem orderly_of_edits {δ : Type} (edits : List Edit)
    (hroom : s₁.draft.arena.CanHold
      (s₁.draft.outline.edited s₁.draft.arena.byteAt edits).length) :
    ∃ d, (Draft.editAll edits : Run δ Draft Unit) s₁.draft = .ok () d ∧ d.Orderly := by
  obtain ⟨d, hedits, hstages⟩ := stages_of_edits hbegin edits hroom (Nat.le_refl _)
  exact ⟨d, hedits, hstages.orderly⟩

end Begun

/-- In a session that staged and received other things before, a message is composed with an
attribute left open inside another, a guard that closes both, a closing too many and a complete
attribute. -/
theorem orderly_of_used_session :
    let s : Session := {
      portId := 7
      draft.arena := { storage := List.replicate 40 0xEE, committed := 33 }
      draft.marks := [20, 16] }
    let s₁ := ((begin 16 5 : Run SessionError Session Unit) s).state
    let edits : List Edit := [.openAttribute 1, .append [1, 2, 3], .openAttribute 2, .closeFrom 1,
      .closeAttribute, .addAttributeCells 3 [some 4, none]]
    (begin 16 5 : Run SessionError Session Unit) s = .ok () s₁ ∧
      s₁.draft.arena.CanHold (s₁.draft.outline.edited s₁.draft.arena.byteAt edits).length ∧
      ∃ d, (Draft.editAll edits : Run SessionError Draft Unit) s₁.draft = .ok () d ∧ d.Orderly := by
  intro s s₁ edits
  have hbegin : (begin 16 5 : Run SessionError Session Unit) s = .ok () s₁ := rfl
  have hroom : s₁.draft.arena.CanHold
      (s₁.draft.outline.edited s₁.draft.arena.byteAt edits).length := by
    decide +kernel
  exact ⟨hbegin, hroom, orderly_of_edits hbegin edits hroom⟩

end Session

end Rtnetlink
