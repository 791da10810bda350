import Rtnetlink.Proofs.Outline

/-!
# Editing drafts

A draft stages an outline: it holds the bytes of the outline at the start of its storage, behind
them the storage is still as it was at first, and there is room for what is to come.  Every edit of
such a draft ends as its effect on the outline says.  The one thing that keeps it from that is room:
if there is none for the message that the edit makes, and storage cannot grow to it, the edit stops
at the step that asks for too much.

* `Draft.InRange`: the message lies in the storage, and its open attributes in the message;
* `Edit.run_follows_or_stops`: what one edit does to a draft that stages an outline;
* `Edit.run_follows`, `Draft.Stages.editAll`: where there is room, an edit and a row of edits have
  their effects, refused ones among them;
* `Draft.nest_editAll`: running edits inside an attribute that closes by itself is a row of edits.
-/

namespace Rtnetlink

open LittleEndian

/-- Bytes are written over committed ones, and all else stays as it is. -/
lemma Arena.patch_eq_ok {ε : Type} {a : Arena} (offset : Nat) (bytes : List UInt8)
    (hfits : a.committed ≤ a.capacity) (hinside : offset + bytes.length ≤ a.committed) :
    ∃ b, (patch offset bytes : Run ε Arena Unit) a = .ok () b ∧ b.committed = a.committed ∧
      b.capacity = a.capacity ∧ b.data = overlay a.data offset bytes ∧
      ∀ place, a.committed ≤ place → b.byteAt place = a.byteAt place := by
  have hpatch : (patch offset bytes : Run ε Arena Unit) a
      = .ok () { a with storage := overlay a.storage offset bytes } :=
    if_pos ⟨hfits, hinside⟩
  refine ⟨_, hpatch, rfl, ?_, data_of_patch hpatch, ?_⟩
  · exact length_overlay (Nat.le_trans hinside hfits)
  · intro place hplace
    exact byteAt_overlay_of_le (Nat.le_trans hinside hplace) (Nat.le_trans hinside hfits)

namespace Draft

/-- What has been composed, with no record of the attributes that were closed on the way. -/
def outline (d : Draft) : Outline where
  bytes := d.bytes
  marks := d.marks

/-- Makes the edits one after the other, whether they are refused or not. -/
def editAll {ε : Type} : List Edit → Run ε Draft Unit
  | [] => pure ()
  | e :: edits => do
    let _ ← Run.attempt e.run
    editAll edits

/-- The draft holds the outline, behind it the storage is as the tape says, and there is room for a
message up to the limit. -/
structure Stages (tape : Nat → UInt8) (limit : Nat) (d : Draft) (o : Outline) : Prop where
  fits : d.arena.committed ≤ d.arena.capacity
  room : d.arena.CanHold limit
  bytes_eq : d.bytes = o.bytes
  marks_eq : d.marks = o.marks
  behind : ∀ place, o.length ≤ place → d.arena.byteAt place = tape place
  intact : o.Intact

/-- How a run ends that comes to the given effect: with that refusal if there is one, and in a draft
that is related to the outline. -/
def Follows (R : Draft → Outline → Prop) (effect : Option Misuse × Outline)
    (outcome : Outcome Misuse Draft Unit) : Prop :=
  ∃ d, R d effect.2 ∧ outcome = match effect.1 with
    | none => .ok () d
    | some cause => .refused cause d

/-- How a run of a draft ends where storage may run short: as its effect says, in storage that did
not shrink, or it stops because there is no room for the message that it makes. -/
def FollowsOrStops (tape : Nat → UInt8) (limit : Nat) (d : Draft)
    (effect : Option Misuse × Outline) (outcome : Outcome Misuse Draft Unit) : Prop :=
  Follows (fun d' o => d'.Stages tape limit o ∧ d.arena.capacity ≤ d'.arena.capacity) effect
      outcome ∨
    ¬ d.arena.CanHold effect.2.length ∧ ∃ d', outcome = .halted .tooLarge d'

/-- The message lies in the storage, and its open attributes in the message. -/
structure InRange (d : Draft) : Prop where
  fits : d.arena.committed ≤ d.arena.capacity
  nested : d.outline.Nested

variable {tape : Nat → UInt8} {limit : Nat} {d d' : Draft} {o : Outline} {cells : List Cell}

lemma length_outline (hfits : d.arena.committed ≤ d.arena.capacity) : d.outline.length = d.length :=
  Arena.length_data hfits

/-- A draft in order stages what has been composed. -/
lemma stages_outline (hfits : d.arena.committed ≤ d.arena.capacity)
    (hroom : d.arena.CanHold limit) (hnested : d.outline.Nested) :
    d.Stages d.arena.byteAt limit d.outline :=
  ⟨hfits, hroom, rfl, rfl, fun _ _ => rfl, hnested.intact rfl⟩

/-- A message in range has a whole header. -/
lemma InRange.header_le (h : d.InRange) : Header.size ≤ d.length := by
  rw [← length_outline h.fits]
  exact h.nested.header_le

/-- A draft in range stages what has been composed, whatever room there is. -/
lemma InRange.stages (h : d.InRange) : d.Stages d.arena.byteAt 0 d.outline :=
  stages_outline h.fits ⟨Nat.zero_le _, .inl (Nat.zero_le _)⟩ h.nested

namespace Stages

lemma length_eq (h : d.Stages tape limit o) : d.length = o.length := by
  rw [Outline.length, ← h.bytes_eq]
  exact (Arena.length_data h.fits).symm

lemma depth_eq (h : d.Stages tape limit o) : d.depth = o.depth := by
  rw [depth, h.marks_eq, Outline.depth]

lemma nested (h : d.Stages tape limit o) : d.outline.Nested := by
  have hlength : d.outline.length = o.length := congrArg List.length h.bytes_eq
  have hmarks : d.outline.marks = o.marks := h.marks_eq
  constructor
  · exact hlength ▸ h.intact.header_le
  · rw [Outline.depth, hmarks]
    exact h.intact.depth_le
  · exact hmarks ▸ h.intact.header_le_mark
  · rw [hlength, hmarks]
    exact h.intact.mark_le
  · exact hmarks ▸ h.intact.marks_apart

lemma inRange (h : d.Stages tape limit o) : d.InRange := ⟨h.fits, h.nested⟩

/-- There is room for everything up to the limit. -/
lemma canHold (h : d.Stages tape limit o) {length : Nat} (hlength : length ≤ limit) :
    d.arena.CanHold length :=
  h.room.mono hlength (Nat.le_refl _)

/-- The room that is known of is not part of what is staged. -/
lemma withRoom {limit' : Nat} (h : d.Stages tape limit o) (hroom : d.arena.CanHold limit') :
    d.Stages tape limit' o :=
  { h with room := hroom }

/-- Cells laid by the arena are laid in the outline. -/
lemma extended {a : Arena} (h : d.Stages tape limit o) (ha : d.arena.Extended cells a) :
    Stages tape limit { d with arena := a } (o.laid tape cells) where
  fits := ha.fits
  room := h.room.mono (Nat.le_refl _) ha.capacity_le
  bytes_eq := by
    have hwindow : d.arena.window d.arena.committed cells.length
        = (List.range cells.length).map fun i => tape (o.length + i) := by
      have hlength : d.arena.committed = o.length := h.length_eq
      rw [Arena.window, hlength]
      exact List.map_congr_left fun i _ => h.behind _ (Nat.le_add_right ..)
    have hdata := ha.data
    rw [hwindow] at hdata
    exact hdata.trans (congrArg (· ++ _) h.bytes_eq)
  marks_eq := h.marks_eq
  behind := by
    intro place hplace
    have hlength : d.arena.committed = o.length := h.length_eq
    rw [Outline.length_laid] at hplace
    have hcommitted := ha.toLaid.committed h.fits
    rw [ha.behind place (by omega), h.behind place (by omega)]
  intact := h.intact.laid cells

end Stages

/-! ## Runs that follow an effect or stop -/

namespace FollowsOrStops

variable {m : Draft} {effect : Option Misuse × Outline} {outcome : Outcome Misuse Draft Unit}

/-- With room for the message that is made, a run does not stop. -/
lemma follows (h : FollowsOrStops tape limit d effect outcome)
    (hroom : d.arena.CanHold effect.2.length) : Follows (Stages tape limit) effect outcome := by
  rcases h with ⟨d', ⟨hd', -⟩, hend⟩ | ⟨hshort, -⟩
  · exact ⟨d', hd', hend⟩
  · exact absurd hroom hshort

/-- A draft whose storage has grown lacks room only if the one before lacks it. -/
lemma of_grown (h : FollowsOrStops tape limit m effect outcome)
    (hgrown : d.arena.capacity ≤ m.arena.capacity) :
    FollowsOrStops tape limit d effect outcome := by
  rcases h with ⟨d', ⟨hd', hgrown'⟩, hend⟩ | ⟨hshort, hstops⟩
  · exact .inl ⟨d', ⟨hd', Nat.le_trans hgrown hgrown'⟩, hend⟩
  · exact .inr ⟨fun hroom => hshort (hroom.mono (Nat.le_refl _) hgrown), hstops⟩

/-- One run after another: a message that gets longer needs room all the way. -/
lemma andThen {first next : Run Misuse Draft Unit}
    (h : FollowsOrStops tape limit d (none, o) (first d)) (hlength : o.length ≤ effect.2.length)
    (hnext : ∀ {m : Draft}, m.Stages tape limit o → FollowsOrStops tape limit m effect (next m)) :
    FollowsOrStops tape limit d effect ((do first; next : Run Misuse Draft Unit) d) := by
  rcases h with ⟨m, ⟨hm, hgrown⟩, hend⟩ | ⟨hshort, m, hend⟩
  · rw [Run.bind_of_ok hend]
    exact (hnext hm).of_grown hgrown
  · exact .inr ⟨fun hroom => hshort (hroom.mono hlength (Nat.le_refl _)), m,
      Run.bind_of_halted hend _⟩

end FollowsOrStops

namespace Stages

/-- A run that leaves the draft alone. -/
lemma unchanged (h : d.Stages tape limit o) {cause : Option Misuse}
    {outcome : Outcome Misuse Draft Unit} (hend : outcome = match cause with
      | none => .ok () d
      | some cause => .refused cause d) :
    FollowsOrStops tape limit d (cause, o) outcome :=
  .inl ⟨d, ⟨h, Nat.le_refl _⟩, hend⟩

/-- An arena step that lays cells or stops does the same to the draft. -/
lemma onArena {run : Run Misuse Arena Unit} (h : d.Stages tape limit o)
    (hrun : d.arena.ExtendedOrStopped cells (run d.arena)) :
    FollowsOrStops tape limit d (none, o.laid tape cells) (Draft.onArena run d) := by
  rcases hrun with ⟨a, hrun, hextended⟩ | ⟨hshort, a, hrun⟩
  · exact .inl ⟨_, ⟨h.extended hextended, hextended.capacity_le⟩, onArena_eq_ok.2 ⟨a, hrun, rfl⟩⟩
  · refine .inr ⟨?_, _, onArena_of_halted hrun⟩
    rw [Outline.length_laid, ← h.length_eq]
    exact hshort

lemma appendCells (h : d.Stages tape limit o)
    (hsmall : (o.laid tape cells).length ≤ Size.greatest) :
    FollowsOrStops tape limit d (none, o.laid tape cells) (Draft.appendCells cells d) := by
  rw [Outline.length_laid, ← h.length_eq] at hsmall
  exact h.onArena (Arena.extended_or_stopped rfl hsmall (Arena.lay_extended h.fits))

lemma append {bytes : List UInt8} (h : d.Stages tape limit o)
    (hsmall : (o.laid tape (written bytes)).length ≤ Size.greatest) :
    FollowsOrStops tape limit d (none, o.laid tape (written bytes)) (Draft.append bytes d) := by
  rw [Outline.length_laid, ← h.length_eq] at hsmall
  refine h.onArena (Arena.extended_or_stopped (length_written bytes) hsmall ?_)
  rw [length_written]
  exact Arena.extend_extended h.fits

lemma openAttribute {kind : UInt16} (h : d.Stages tape limit o) (hdepth : o.depth < maxDepth)
    (hsmall : (o.opened kind).length ≤ Size.greatest) :
    FollowsOrStops tape limit d (none, o.opened kind) (Draft.openAttribute kind d) := by
  have hheader : o.laid tape (written (AttributeHeader.encode { length := 0, kind }))
      = { o with bytes := o.bytes ++ AttributeHeader.encode { length := 0, kind } } := by
    rw [Outline.laid, settle_written (by simp)]
  have happend : FollowsOrStops tape limit d
      (none, o.laid tape (written (AttributeHeader.encode { length := 0, kind })))
      (Draft.append (AttributeHeader.encode { length := 0, kind }) d) :=
    h.append (by rw [hheader]; exact hsmall)
  rw [hheader] at happend
  rw [Draft.openAttribute, Run.bind_of_ok (Run.state_apply d), if_neg (by rw [h.depth_eq]; omega)]
  rcases happend with ⟨m, ⟨hm, hgrown⟩, hend⟩ | ⟨hshort, m, hend⟩
  · have hmarks : d.length :: d.marks = o.length :: o.marks := by rw [h.length_eq, h.marks_eq]
    refine .inl ⟨{ m with marks := d.length :: d.marks }, ⟨⟨hm.fits, hm.room, hm.bytes_eq, hmarks,
      hm.behind, h.intact.opened hdepth kind⟩, hgrown⟩, ?_⟩
    rw [Run.bind_of_ok hend, Run.modify_apply]
  · exact .inr ⟨hshort, m, Run.bind_of_halted hend _⟩

/-- The arena with which closing an attribute that is not too long comes to its padding. -/
lemma exists_stamped {mark : Nat} {outer : List Nat} (h : d.Stages tape limit o)
    (hmarks : o.marks = mark :: outer) (hlength : o.length - mark ≤ maxAttributeLength) :
    ∃ b : Arena, Draft.closeAttribute d
        = (Draft.onArena (Arena.extendZero (align o.length - o.length)) : Run Misuse Draft Unit)
          { arena := b, marks := outer } ∧
      b.committed = o.length ∧ b.capacity = d.arena.capacity ∧
      b.data = overlay o.bytes mark (ofU16 (UInt16.ofNat (o.length - mark))) ∧
      ∀ place, o.length ≤ place → b.byteAt place = tape place := by
  have hinside := h.intact.mark_le mark (hmarks ▸ List.mem_cons_self)
  have hend : d.arena.committed = o.length := h.length_eq
  simp only [AttributeHeader.size] at hinside
  obtain ⟨b, hpatch, hcommitted, hcapacity, hdata, hbehind⟩ := Arena.patch_eq_ok (ε := Misuse)
    mark (ofU16 (UInt16.ofNat (o.length - mark))) h.fits (by rw [length_ofU16, hend]; omega)
  refine ⟨b, ?_, hcommitted.trans hend, hcapacity, hdata.trans (congrArg (overlay · mark _)
    h.bytes_eq), fun place hplace => ?_⟩
  · rw [← h.length_eq] at hpatch hlength hinside ⊢
    exact closeAttribute_eq (h.marks_eq.trans hmarks) (by omega) hlength hpatch
  · rw [hbehind place (hend ▸ hplace), h.behind place hplace]

/-- An attribute that is not too long is closed, where there is room for its padding. -/
lemma closeAttribute_of_le {mark : Nat} {outer : List Nat} (h : d.Stages tape limit o)
    (hmarks : o.marks = mark :: outer) (hlength : o.length - mark ≤ maxAttributeLength)
    (hsmall : (o.stamped mark outer).length ≤ Size.greatest) :
    FollowsOrStops tape limit d (none, o.stamped mark outer) (Draft.closeAttribute d) := by
  have hinside := h.intact.mark_le mark (hmarks ▸ List.mem_cons_self)
  have hstamped : (o.stamped mark outer).length = align o.length := Outline.length_stamped hinside
  have hle := le_align o.length
  obtain ⟨b, hclose, hcommitted, hcapacity, hdata, hbehind⟩ := h.exists_stamped hmarks hlength
  have hfits : b.committed ≤ b.capacity := by
    rw [hcommitted, hcapacity, ← h.length_eq]
    exact h.fits
  have hpadding : (written (List.replicate (align o.length - o.length) 0)).length
      = align o.length - o.length := by
    rw [length_written, List.length_replicate]
  have hpadded : b.committed + (align o.length - o.length) = align o.length := by omega
  have hextends := Arena.extended_or_stopped (ε := Misuse) (a := b) hpadding
    (by rw [hpadding, hpadded, ← hstamped]; exact hsmall)
    (by rw [hpadding]; exact Arena.extendZero_extended hfits)
  rw [hclose]
  rcases hextends with ⟨a, hextend, hextended⟩ | ⟨hshort, a, hextend⟩
  · have hgrown : d.arena.capacity ≤ a.capacity := hcapacity ▸ hextended.capacity_le
    have hroom := h.room.mono (Nat.le_refl _) hgrown
    refine .inl ⟨{ arena := a, marks := outer }, ⟨⟨hextended.fits, hroom, ?_, rfl,
      fun place hplace => ?_, h.intact.stamped hmarks hlength⟩, hgrown⟩,
      onArena_eq_ok.2 ⟨a, hextend, rfl⟩⟩
    · have hbytes := hextended.data
      rw [settle_written (by simp), hdata] at hbytes
      exact hbytes
    · have hcommitted' := hextended.toLaid.committed hfits
      rw [hpadding, hpadded] at hcommitted'
      rw [hstamped] at hplace
      rw [hextended.behind place (by omega), hbehind place (by omega)]
  · refine .inr ⟨fun hroom => hshort ?_, _, onArena_of_halted hextend⟩
    rw [hpadding, hpadded, ← hstamped]
    exact hroom.mono (Nat.le_refl _) (Nat.le_of_eq hcapacity.symm)

/-- Closing an attribute ends as its effect says, or stops. -/
lemma closeAttribute (h : d.Stages tape limit o) (hsmall : o.close.2.length ≤ Size.greatest) :
    FollowsOrStops tape limit d o.close (Draft.closeAttribute d) := by
  unfold Outline.close at hsmall ⊢
  split
  · next hmarks =>
    refine h.unchanged ?_
    rw [Draft.closeAttribute, Run.bind_of_ok (Run.state_apply d)]
    simp only [h.marks_eq, hmarks]
    rfl
  · next mark outer hmarks =>
    have hinside := h.intact.mark_le mark (hmarks ▸ List.mem_cons_self)
    simp only [hmarks] at hsmall
    split
    · next hlong =>
      have hfrom : (lengthFrom mark : Run Misuse Draft Nat) d = .ok (o.length - mark) d :=
        h.length_eq ▸ lengthFrom_of_le (by rw [h.length_eq]; omega)
      refine h.unchanged ?_
      rw [Draft.closeAttribute, Run.bind_of_ok (Run.state_apply d)]
      simp only [h.marks_eq, hmarks]
      rw [Run.bind_of_ok hfrom, if_pos hlong]
      rfl
    · next hshort =>
      rw [if_neg hshort] at hsmall
      exact h.closeAttribute_of_le hmarks (Nat.le_of_not_lt hshort) hsmall

/-- An attribute with a value ends as its effect says or stops, if laying its value does. -/
lemma enclose {kind : UInt16} {run : Run Misuse Draft Unit} (h : d.Stages tape limit o)
    (hsmall : (o.enclose tape kind cells).2.length ≤ Size.greatest)
    (hrun : ∀ {d : Draft} {o : Outline}, d.Stages tape limit o →
      (o.laid tape cells).length ≤ Size.greatest →
        FollowsOrStops tape limit d (none, o.laid tape cells) (run d)) :
    FollowsOrStops tape limit d (o.enclose tape kind cells)
      ((do Draft.openAttribute kind; run; Draft.closeAttribute : Run Misuse Draft Unit) d) := by
  unfold Outline.enclose at hsmall ⊢
  split
  · next hdepth =>
    have hopen : Draft.openAttribute kind d = .refused (.tooDeep maxDepth) d :=
      openAttribute_of_maxDepth_le (by rw [h.depth_eq]; exact hdepth)
    exact h.unchanged (Run.bind_of_refused hopen _)
  · next hdepth =>
    rw [if_neg hdepth] at hsmall
    -- the message only gets longer on the way
    have hclosed := (Outline.changes_close tape ((o.opened kind).laid tape cells)).length_le
    have hlaid : (o.opened kind).length ≤ ((o.opened kind).laid tape cells).length :=
      (Outline.Change.lay cells (o.opened kind)).length_le
    have hvalue := Nat.le_trans hclosed hsmall
    have hopen := h.openAttribute (Nat.lt_of_not_le hdepth) (Nat.le_trans hlaid hvalue)
    refine hopen.andThen (Nat.le_trans hlaid hclosed) fun hm => ?_
    exact (hrun hm hvalue).andThen hclosed fun hm' => hm'.closeAttribute hsmall

/-- So does closing from a level on, by induction on the attempts that are left. -/
lemma closeDown (level : Nat) : (count : Nat) → {d : Draft} → {o : Outline} →
    d.Stages tape limit o → (o.closedDown level count).length ≤ Size.greatest →
      FollowsOrStops tape limit d (none, o.closedDown level count) (Draft.closeDown level count d)
  | 0, _, _, h, _ => h.unchanged rfl
  | count + 1, d, o, h, hsmall => by
    rw [Draft.closeDown, Run.bind_of_ok (Run.state_apply d), h.depth_eq]
    rw [Outline.closedDown] at hsmall ⊢
    split
    · exact h.unchanged rfl
    · next hdepth =>
      rw [if_neg hdepth] at hsmall
      rcases hclose : o.close with ⟨_ | cause, o'⟩ <;> rw [hclose] at hsmall
      · have hlength := (Outline.changes_closedDown tape level count o').length_le
        have hfirst := h.closeAttribute (by rw [hclose]; exact Nat.le_trans hlength hsmall)
        rw [hclose] at hfirst
        rcases hfirst with ⟨m, ⟨hm, hgrown⟩, hend⟩ | ⟨hshort, m, hend⟩
        · rw [Run.bind_of_ok (Run.attempt_of_ok hend)]
          exact (closeDown level count hm hsmall).of_grown hgrown
        · exact .inr ⟨fun hroom => hshort (hroom.mono hlength (Nat.le_refl _)), m,
            Run.bind_of_halted (Run.attempt_of_halted hend) _⟩
      · have hfirst := h.closeAttribute (by rw [hclose]; exact hsmall)
        rw [hclose] at hfirst
        rcases hfirst with ⟨m, hm, hend⟩ | ⟨hshort, m, hend⟩
        · exact .inl ⟨m, hm, Run.bind_of_ok (Run.attempt_of_refused hend) _⟩
        · exact .inr ⟨hshort, m, Run.bind_of_halted (Run.attempt_of_halted hend) _⟩

end Stages

end Draft

namespace Edit

open Draft

variable {tape : Nat → UInt8} {limit : Nat} {d : Draft} {o : Outline}

/-- Every edit ends as its effect says, or stops where there is no room for it. -/
theorem run_follows_or_stops (e : Edit) (h : d.Stages tape limit o)
    (hsmall : (e.effect tape o).2.length ≤ Size.greatest) :
    FollowsOrStops tape limit d (e.effect tape o) (e.run d) := by
  cases e with
  | append bytes => exact h.append hsmall
  | appendCells cells => exact h.appendCells hsmall
  | openAttribute kind =>
    rw [Edit.effect] at hsmall ⊢
    split
    · next hdepth =>
      exact h.unchanged (openAttribute_of_maxDepth_le (by rw [h.depth_eq]; exact hdepth))
    · next hdepth =>
      rw [if_neg hdepth] at hsmall
      exact h.openAttribute (Nat.lt_of_not_le hdepth) hsmall
  | closeAttribute => exact h.closeAttribute hsmall
  | addAttribute kind value => exact h.enclose hsmall fun hd hlaid => hd.append hlaid
  | addAttributeCells kind cells => exact h.enclose hsmall fun hd hlaid => hd.appendCells hlaid
  | closeFrom level =>
    rw [Edit.run, Draft.closeFrom, Run.bind_of_ok (Run.state_apply d), h.depth_eq]
    exact h.closeDown level o.depth hsmall

/-- Where room is known of, it ends as its effect says. -/
theorem run_follows (e : Edit) (h : d.Stages tape limit o)
    (hroom : (e.effect tape o).2.length ≤ limit) :
    Follows (Stages tape limit) (e.effect tape o) (e.run d) :=
  (e.run_follows_or_stops h (h.canHold hroom).1).follows (h.canHold hroom)

end Edit

namespace Draft

variable {tape : Nat → UInt8} {limit : Nat} {d d' : Draft} {o : Outline} {ε : Type}

/-- An edit whose refusal is taken as a value. -/
lemma Stages.attempt (e : Edit) (h : d.Stages tape limit o)
    (hroom : (e.effect tape o).2.length ≤ limit) :
    ∃ result d', (Run.attempt e.run : Run ε Draft (Except Misuse Unit)) d = .ok result d' ∧
      d'.Stages tape limit (e.effect tape o).2 := by
  obtain ⟨d', hd', hend⟩ := e.run_follows h hroom
  rw [Run.attempt, hend]
  rcases (e.effect tape o).1 with _ | cause
  · exact ⟨_, d', rfl, hd'⟩
  · exact ⟨_, d', rfl, hd'⟩

/-- A row of edits has its effects one after the other. -/
theorem Stages.editAll : (edits : List Edit) → {d : Draft} → {o : Outline} →
    d.Stages tape limit o → (o.edited tape edits).length ≤ limit →
      ∃ d', (Draft.editAll edits : Run ε Draft Unit) d = .ok () d' ∧
        d'.Stages tape limit (o.edited tape edits)
  | [], d, _, h, _ => ⟨d, rfl, h⟩
  | e :: edits, d, o, h, hroom => by
    have hfirst := (Outline.changes_edited tape edits (e.effect tape o).2).length_le
    obtain ⟨result, m, hattempt, hm⟩ := h.attempt (ε := ε) e (Nat.le_trans hfirst hroom)
    obtain ⟨d', hrest, hd'⟩ := Stages.editAll edits hm hroom
    exact ⟨d', (Run.bind_of_ok hattempt _).trans hrest, hd'⟩

/-! ## Refusals -/

/-- Opening is refused exactly at the greatest depth, and leaves the draft alone. -/
lemma openAttribute_eq_refused {kind : UInt16} {cause : Misuse} :
    openAttribute kind d = .refused cause d'
      ↔ maxDepth ≤ d.depth ∧ cause = .tooDeep maxDepth ∧ d' = d := by
  constructor
  · intro h
    rw [openAttribute, Run.bind_of_ok (Run.state_apply d)] at h
    split at h
    · next hdepth =>
      cases h
      exact ⟨hdepth, rfl, rfl⟩
    · exact absurd h (((Arena.unrefused_extend _).within.bind
        fun _ => Run.unrefused_modify _) d cause d')
  · rintro ⟨hdepth, rfl, rfl⟩
    exact openAttribute_of_maxDepth_le hdepth

/-- Closing is refused exactly where nothing is open or the attribute opened last is too long, and
leaves the draft alone. -/
lemma closeAttribute_eq_refused {cause : Misuse} :
    closeAttribute d = .refused cause d' ↔ d' = d ∧ (d.marks = [] ∧ cause = .noneOpen ∨
      ∃ mark outer, d.marks = mark :: outer ∧ maxAttributeLength < d.length - mark ∧
        cause = .tooLong (d.length - mark)) := by
  rw [closeAttribute, Run.bind_of_ok (Run.state_apply d)]
  rcases hmarks : d.marks with _ | ⟨mark, outer⟩
  · simp [eq_comm, and_comm]
  dsimp only
  rcases Nat.lt_or_ge maxAttributeLength (d.length - mark) with hlong | hshort
  · rw [Run.bind_of_ok (lengthFrom_of_le (by omega)), if_pos hlong]
    simp [hlong, eq_comm, and_comm]
  · constructor
    · intro h
      rcases Nat.lt_or_ge d.length mark with houtside | hinside
      · rw [Run.bind_of_halted (lengthFrom_of_lt houtside)] at h
        cases h
      · rw [Run.bind_of_ok (lengthFrom_of_le hinside), if_neg (Nat.not_lt.2 hshort)] at h
        -- from here on nothing is refused
        refine absurd h ((Run.unrefused_modify _).bind (fun _ => ?_) d cause d')
        exact Run.unrefused_state.bind fun _ =>
          (Arena.unrefused_patch _ _).within.bind fun _ => (Arena.unrefused_extendZero _).within
    · rintro ⟨-, ⟨hnone, -⟩ | ⟨mark', outer', hsame, hlong, -⟩⟩
      · cases hnone
      · cases hsame
        omega

/-! ## Attributes that close by themselves -/

lemma unrefused_closeDown (level : Nat) :
    (count : Nat) → Run.Unrefused (closeDown level count)
  | 0 => Run.unrefused_pure _
  | count + 1 => by
    refine Run.unrefused_state.bind fun d => ?_
    split
    · exact Run.unrefused_pure _
    · refine (Run.unrefused_attempt _).bind fun result => ?_
      cases result with
      | error => exact Run.unrefused_pure _
      | ok => exact unrefused_closeDown level count

lemma unrefused_closeFrom (level : Nat) : Run.Unrefused (closeFrom level) :=
  Run.unrefused_state.bind fun d => unrefused_closeDown level d.depth

lemma unrefused_editAll : (edits : List Edit) →
    Run.Unrefused (Draft.editAll edits : Run ε Draft Unit)
  | [] => Run.unrefused_pure _
  | _ :: edits => (Run.unrefused_attempt _).bind fun _ => unrefused_editAll edits

lemma editAll_append (edits edits' : List Edit) (d : Draft) :
    (Draft.editAll (edits ++ edits') : Run ε Draft Unit) d
      = (do Draft.editAll edits; Draft.editAll edits' : Run ε Draft Unit) d := by
  induction edits generalizing d with
  | nil => rfl
  | cons e edits ih =>
    rw [List.cons_append, Draft.editAll, Draft.editAll]
    simp only [Run.bind_apply] at ih ⊢
    rcases (Run.attempt e.run : Run ε Draft (Except Misuse Unit)) d with _ | _ | _
    · exact ih _
    · rfl
    · rfl

/-- Edits made inside an attribute that closes by itself are a row of edits. -/
lemma nest_editAll (kind : UInt16) (inner : List Edit) (hdepth : d.depth < maxDepth) :
    nest kind (Draft.editAll inner) d
      = Draft.editAll (.openAttribute kind :: (inner ++ [.closeFrom (d.depth + 1)])) d := by
  rw [nest, Draft.editAll, Run.bind_apply, Run.bind_apply]
  rcases hopen : Draft.openAttribute kind d with ⟨⟨⟩, m⟩ | ⟨cause, m⟩ | ⟨fault, m⟩
  · have hm : m.depth = d.depth + 1 := by
      rw [Draft.openAttribute, Run.bind_of_ok (Run.state_apply d),
        if_neg (Nat.not_le.2 hdepth)] at hopen
      obtain ⟨⟨⟩, t, -, hmark⟩ := Run.bind_eq_ok.1 hopen
      cases hmark
      rfl
    have hattempt : (Run.attempt (Edit.run (.openAttribute kind)) :
        Run Misuse Draft (Except Misuse Unit)) d = .ok (.ok ()) m := Run.attempt_of_ok hopen
    simp only [hattempt, editAll_append, Run.bind_of_ok (Run.state_apply m)]
    rw [Run.bind_apply, Run.bind_apply, Run.attempt]
    rcases hinner : (Draft.editAll inner : Run Misuse Draft Unit) m
      with ⟨⟨⟩, t⟩ | ⟨cause, t⟩ | ⟨fault, t⟩
    · -- closing is not refused either
      simp only [Draft.editAll, Run.bind_apply, Run.attempt, Edit.run, hm]
      rcases hclose : closeFrom (d.depth + 1) t with _ | ⟨cause, u⟩ | _
      · rfl
      · exact absurd hclose (unrefused_closeFrom _ t cause u)
      · rfl
    · exact absurd hinner (unrefused_editAll inner m cause t)
    · rfl
  · obtain ⟨hdeep, -⟩ := openAttribute_eq_refused.1 hopen
    omega
  · have hattempt : (Run.attempt (Edit.run (.openAttribute kind)) :
        Run Misuse Draft (Except Misuse Unit)) d = .halted fault m := Run.attempt_of_halted hopen
    simp only [hattempt]

end Draft

end Rtnetlink
