import Mathlib.Logic.Relation
import Rtnetlink.Proofs.Layout

/-!
# Outlines: what composing does to a message

An outline is a message without the storage it is staged in: its bytes, where its open attributes
start, and which attributes were closed so far.  Each edit of a draft has an effect on its outline.
The effect says whether the edit is refused and what the message is afterwards, and it is a row of
small changes: cells are laid at the end, an attribute is opened, or the attribute opened last is
closed.

* `Outline.Intact`: open attributes lie apart from each other and behind the message's header, and
  every closed attribute carries its true length;
* `Outline.Framed`: nothing in front of the old end has changed but the lengths of the attributes
  that were closed since;
* `Outline.Changes.intact`, `Outline.Changes.framed`: a row of changes keeps the one and stays
  within the other.
-/

namespace Rtnetlink

open LittleEndian
open scoped List

/-! ## Places of an overlaid byte string -/

section Overlay

variable {base bytes : List UInt8} {offset place : Nat}

lemma getElem?_overlay_of_lt (h : place < offset) (hfits : offset ≤ base.length) :
    (overlay base offset bytes)[place]? = base[place]? := by
  rw [overlay, List.append_assoc, List.getElem?_append_left (by rw [List.length_take]; omega),
    List.getElem?_take_of_lt h]

lemma getElem?_overlay_of_le (h : offset + bytes.length ≤ place) (hfits : offset ≤ base.length) :
    (overlay base offset bytes)[place]? = base[place]? := by
  have hfront : (base.take offset ++ bytes).length = offset + bytes.length := by
    rw [List.length_append, List.length_take, Nat.min_eq_left hfits]
  rw [overlay, List.getElem?_append_right (by omega), List.getElem?_drop, hfront,
    Nat.add_sub_cancel' h]

/-- What was written over is read back. -/
lemma take_drop_overlay {count : Nat} (hfits : offset ≤ base.length)
    (hcount : bytes.length = count) :
    ((overlay base offset bytes).drop offset).take count = bytes := by
  have hfront : (base.take offset).length = offset := by
    rw [List.length_take, Nat.min_eq_left hfits]
  rw [overlay, List.append_assoc, List.drop_left' hfront, List.take_left' hcount]

lemma length_le_length_overlay : base.length ≤ (overlay base offset bytes).length := by
  simp only [overlay, List.length_append, List.length_take, List.length_drop]
  omega

/-- Byte strings that agree at some places in a row have the same slice there. -/
lemma take_drop_congr {bytes' : List UInt8} {count : Nat}
    (h : ∀ i, place ≤ i → i < place + count → bytes'[i]? = bytes[i]?) :
    (bytes'.drop place).take count = (bytes.drop place).take count := by
  apply List.ext_getElem?
  intro i
  simp only [List.getElem?_take, List.getElem?_drop]
  split
  · exact h _ (by omega) (by omega)
  · rfl

end Overlay

/-- Where a closed attribute starts, and where its value ends. -/
structure Span where
  /-- Where the header of the attribute starts. -/
  start : Nat
  /-- Where the message ended when the attribute was closed, before it was padded. -/
  stop : Nat
deriving DecidableEq, Repr

/-- A message under construction, without its storage. -/
structure Outline where
  /-- The message so far. -/
  bytes : List UInt8
  /-- Where the open attributes start, the innermost first. -/
  marks : List Nat := []
  /-- The attributes that were closed, the latest first. -/
  spans : List Span := []
deriving DecidableEq, Repr

namespace Outline

/-- The length of the message so far. -/
def length (o : Outline) : Nat := o.bytes.length

/-- How many attributes are open. -/
def depth (o : Outline) : Nat := o.marks.length

/-- Cells laid at the end of the message.  A gap keeps what the tape holds there. -/
def laid (tape : Nat → UInt8) (cells : List Cell) (o : Outline) : Outline :=
  { o with
    bytes := o.bytes ++ settle cells ((List.range cells.length).map fun i => tape (o.length + i)) }

/-- An attribute opened at the end of the message. -/
def opened (kind : UInt16) (o : Outline) : Outline :=
  { o with
    bytes := o.bytes ++ AttributeHeader.encode { length := 0, kind }
    marks := o.length :: o.marks }

/-- The attribute that starts at the mark is closed, and those of `outer` stay open: its length is
written into its header, and the message is padded to four bytes. -/
def stamped (mark : Nat) (outer : List Nat) (o : Outline) : Outline where
  bytes := overlay o.bytes mark (ofU16 (UInt16.ofNat (o.length - mark)))
    ++ List.replicate (align o.length - o.length) 0
  marks := outer
  spans := { start := mark, stop := o.length } :: o.spans

/-- What closing the attribute opened last comes to. -/
def close (o : Outline) : Option Misuse × Outline :=
  match o.marks with
  | [] => (some .noneOpen, o)
  | mark :: outer =>
    if Draft.maxAttributeLength < o.length - mark then
      (some (.tooLong (o.length - mark)), o)
    else
      (none, o.stamped mark outer)

/-- What an attribute with the cells as its value comes to. -/
def enclose (tape : Nat → UInt8) (kind : UInt16) (cells : List Cell) (o : Outline) :
    Option Misuse × Outline :=
  if Draft.maxDepth ≤ o.depth then
    (some (.tooDeep Draft.maxDepth), o)
  else
    ((o.opened kind).laid tape cells).close

/-- The attributes of a level and above are closed, until one cannot be closed. -/
def closedDown (level : Nat) : (count : Nat) → Outline → Outline
  | 0, o => o
  | count + 1, o =>
    if o.depth < level then
      o
    else
      match o.close with
      | (none, o') => closedDown level count o'
      | (some _, o') => o'

end Outline

/-- A step of composing a message.  A guard that closes its attribute when it goes out of scope is
two of them: it opens the attribute first, and closes from its level on in the end. -/
inductive Edit where
  /-- Appends raw bytes. -/
  | append (bytes : List UInt8)
  /-- Appends a fixed layout. -/
  | appendCells (cells : List Cell)
  /-- Opens an attribute. -/
  | openAttribute (kind : UInt16)
  /-- Closes the attribute opened last. -/
  | closeAttribute
  /-- Appends an attribute with the given value. -/
  | addAttribute (kind : UInt16) (value : List UInt8)
  /-- Appends an attribute whose value is a fixed layout. -/
  | addAttributeCells (kind : UInt16) (cells : List Cell)
  /-- Closes the attribute of a level and all that are open inside it. -/
  | closeFrom (level : Nat)
deriving DecidableEq, Repr

namespace Edit

/-- The edit of a draft. -/
def run : Edit → Run Misuse Draft Unit
  | .append bytes => Draft.append bytes
  | .appendCells cells => Draft.appendCells cells
  | .openAttribute kind => Draft.openAttribute kind
  | .closeAttribute => Draft.closeAttribute
  | .addAttribute kind value => Draft.addAttribute kind value
  | .addAttributeCells kind cells => Draft.addAttributeCells kind cells
  | .closeFrom level => Draft.closeFrom level

/-- What the edit comes to on a message that is staged on a tape: why it is refused, if it is, and
the message afterwards. -/
def effect (tape : Nat → UInt8) (e : Edit) (o : Outline) : Option Misuse × Outline :=
  match e with
  | .append bytes => (none, o.laid tape (written bytes))
  | .appendCells cells => (none, o.laid tape cells)
  | .openAttribute kind =>
    if Draft.maxDepth ≤ o.depth then (some (.tooDeep Draft.maxDepth), o) else (none, o.opened kind)
  | .closeAttribute => o.close
  | .addAttribute kind value => o.enclose tape kind (written value)
  | .addAttributeCells kind cells => o.enclose tape kind cells
  | .closeFrom level => (none, o.closedDown level o.depth)

end Edit

namespace Outline

/-- The message after some edits, whether they were refused or not. -/
def edited (tape : Nat → UInt8) : List Edit → Outline → Outline
  | [], o => o
  | e :: edits, o => edited tape edits (e.effect tape o).2

variable {tape : Nat → UInt8} {o o' o'' : Outline} {cells : List Cell} {kind : UInt16} {mark : Nat}
  {outer : List Nat}

@[simp] lemma marks_laid : (o.laid tape cells).marks = o.marks := rfl

@[simp] lemma marks_opened : (o.opened kind).marks = o.length :: o.marks := rfl

@[simp] lemma length_laid : (o.laid tape cells).length = o.length + cells.length := by
  simp only [length, laid, List.length_append]
  rw [length_settle (by simp)]

@[simp] lemma length_opened : (o.opened kind).length = o.length + AttributeHeader.size := by
  simp only [length, opened, List.length_append, AttributeHeader.length_encode]

lemma length_stamped (hmark : mark + AttributeHeader.size ≤ o.length) :
    (o.stamped mark outer).length = align o.length := by
  have hle := le_align o.length
  simp only [length, AttributeHeader.size] at hmark hle
  simp only [stamped, length, List.length_append, List.length_replicate]
  rw [length_overlay (by rw [length_ofU16]; omega)]
  omega

/-! ## What an effect depends on -/

/-- The two messages are the same, whatever was closed on the way. -/
def Same (o o' : Outline) : Prop := o'.bytes = o.bytes ∧ o'.marks = o.marks

section Same

variable {tape' : Nat → UInt8} (h : Same o o')
include h

lemma Same.length_eq : o'.length = o.length := congrArg List.length h.1

lemma Same.depth_eq : o'.depth = o.depth := congrArg List.length h.2

lemma Same.laid (htape : ∀ place, o.length ≤ place → tape' place = tape place)
    (cells : List Cell) : Same (o.laid tape cells) (o'.laid tape' cells) := by
  refine ⟨?_, h.2⟩
  have hgaps : ((List.range cells.length).map fun i => tape' (o.length + i))
      = (List.range cells.length).map fun i => tape (o.length + i) :=
    List.map_congr_left fun i _ => htape _ (Nat.le_add_right ..)
  simp only [Outline.laid, h.1, h.length_eq, hgaps]

lemma Same.opened (kind : UInt16) : Same (o.opened kind) (o'.opened kind) := by
  refine ⟨?_, ?_⟩
  · simp only [Outline.opened, h.1]
  · rw [marks_opened, marks_opened, h.2, h.length_eq]

lemma Same.stamped (mark : Nat) (outer : List Nat) :
    Same (o.stamped mark outer) (o'.stamped mark outer) := by
  refine ⟨?_, rfl⟩
  simp only [Outline.stamped, h.1, h.length_eq]

lemma Same.close : o'.close.1 = o.close.1 ∧ Same o.close.2 o'.close.2 := by
  unfold Outline.close
  rw [h.2, h.length_eq]
  split
  · exact ⟨rfl, h⟩
  · split
    · exact ⟨rfl, h⟩
    · exact ⟨rfl, h.stamped _ _⟩

lemma Same.enclose (htape : ∀ place, o.length ≤ place → tape' place = tape place)
    (kind : UInt16) (cells : List Cell) :
    (o'.enclose tape' kind cells).1 = (o.enclose tape kind cells).1 ∧
      Same (o.enclose tape kind cells).2 (o'.enclose tape' kind cells).2 := by
  unfold Outline.enclose
  rw [h.depth_eq]
  split
  · exact ⟨rfl, h⟩
  · refine ((h.opened kind).laid (fun place hplace => htape place ?_) cells).close
    rw [length_opened] at hplace
    omega

omit h in
lemma Same.closedDown (level : Nat) : (count : Nat) → {o o' : Outline} → Same o o' →
    Same (o.closedDown level count) (o'.closedDown level count)
  | 0, _, _, h => h
  | count + 1, o, o', h => by
    rw [Outline.closedDown, Outline.closedDown, h.depth_eq]
    split
    · exact h
    · obtain ⟨hcause, hclose⟩ := h.close
      rcases hend : o.close with ⟨_ | cause, m⟩ <;>
        rcases hend' : o'.close with ⟨_ | cause', m'⟩ <;> rw [hend, hend'] at hcause hclose
      · exact Same.closedDown level count hclose
      · cases hcause
      · cases hcause
      · exact hclose

/-- What an edit comes to depends on the message and the storage behind it alone. -/
lemma Same.effect (htape : ∀ place, o.length ≤ place → tape' place = tape place) (e : Edit) :
    (e.effect tape' o').1 = (e.effect tape o).1 ∧
      Same (e.effect tape o).2 (e.effect tape' o').2 := by
  cases e with
  | append bytes => exact ⟨rfl, h.laid htape _⟩
  | appendCells cells => exact ⟨rfl, h.laid htape cells⟩
  | openAttribute kind =>
    rw [Edit.effect, Edit.effect, h.depth_eq]
    split
    · exact ⟨rfl, h⟩
    · exact ⟨rfl, h.opened kind⟩
  | closeAttribute => exact h.close
  | addAttribute kind value => exact h.enclose htape kind _
  | addAttributeCells kind cells => exact h.enclose htape kind cells
  | closeFrom level =>
    rw [Edit.effect, Edit.effect, h.depth_eq]
    exact ⟨rfl, Same.closedDown level o.depth h⟩

end Same

/-! ## Changes -/

/-- The smallest steps of composing, on a given tape. -/
inductive Change (tape : Nat → UInt8) : Outline → Outline → Prop where
  /-- Cells are laid at the end. -/
  | lay (cells : List Cell) (o : Outline) : Change tape o (o.laid tape cells)
  /-- An attribute is opened where one more may be open. -/
  | open {o : Outline} (kind : UInt16) (h : o.depth < Draft.maxDepth) :
    Change tape o (o.opened kind)
  /-- The attribute opened last is closed, which is not too long. -/
  | close {o : Outline} {mark : Nat} {outer : List Nat} (h : o.marks = mark :: outer)
    (hlength : o.length - mark ≤ Draft.maxAttributeLength) : Change tape o (o.stamped mark outer)

/-- Any number of changes. -/
abbrev Changes (tape : Nat → UInt8) : Outline → Outline → Prop :=
  Relation.ReflTransGen (Change tape)

lemma changes_close (tape : Nat → UInt8) (o : Outline) : Changes tape o o.close.2 := by
  unfold close
  split
  · exact .refl
  · next hmarks =>
    split
    · exact .refl
    · next hlength => exact .single (.close hmarks (Nat.le_of_not_lt hlength))

lemma changes_enclose : Changes tape o (o.enclose tape kind cells).2 := by
  unfold enclose
  split
  · exact .refl
  · next hdepth =>
    exact ((Relation.ReflTransGen.single (.open kind (Nat.lt_of_not_le hdepth))).tail
      (.lay cells _)).trans (changes_close tape _)

lemma changes_closedDown (tape : Nat → UInt8) (level count : Nat) (o : Outline) :
    Changes tape o (o.closedDown level count) := by
  induction count generalizing o with
  | zero => exact .refl
  | succ count ih =>
    have hclose := changes_close tape o
    rw [closedDown]
    split
    · exact .refl
    · rcases hend : o.close with ⟨_ | cause, o'⟩ <;> rw [hend] at hclose
      · exact hclose.trans (ih o')
      · exact hclose

/-- Every edit is a row of changes. -/
lemma changes_effect (tape : Nat → UInt8) (e : Edit) (o : Outline) :
    Changes tape o (e.effect tape o).2 := by
  cases e with
  | append bytes => exact .single (.lay _ o)
  | appendCells cells => exact .single (.lay cells o)
  | openAttribute kind =>
    rw [Edit.effect]
    split
    · exact .refl
    · next hdepth => exact .single (.open kind (Nat.lt_of_not_le hdepth))
  | closeAttribute => exact changes_close tape o
  | addAttribute kind value => exact changes_enclose
  | addAttributeCells kind cells => exact changes_enclose
  | closeFrom level => exact changes_closedDown tape level o.depth o

lemma changes_edited (tape : Nat → UInt8) (edits : List Edit) (o : Outline) :
    Changes tape o (o.edited tape edits) := by
  induction edits generalizing o with
  | nil => exact .refl
  | cons e edits ih => exact (changes_effect tape e o).trans (ih _)

lemma Change.length_le (h : Change tape o o') : o.length ≤ o'.length := by
  cases h with
  | lay cells => rw [length_laid]; exact Nat.le_add_right ..
  | «open» kind => rw [length_opened]; exact Nat.le_add_right ..
  | close =>
    simp only [length, stamped, List.length_append]
    exact Nat.le_trans length_le_length_overlay (Nat.le_add_right ..)

/-- Messages only get longer. -/
lemma Changes.length_le (h : Changes tape o o') : o.length ≤ o'.length := by
  induction h with
  | refl => exact Nat.le_refl _
  | tail _ hchange ih => exact Nat.le_trans ih hchange.length_le

/-! ## What changes keep -/

/-- The length that an attribute carries is the distance from its start to the end of its value. -/
def Measures (o : Outline) (span : Span) : Prop :=
  (o.bytes.drop span.start).take 2 = ofU16 (UInt16.ofNat (span.stop - span.start))

/-- The open attributes are few enough, and their headers lie apart from each other, behind the
header of the message and inside the message. -/
structure Nested (o : Outline) : Prop where
  header_le : Header.size ≤ o.length
  depth_le : o.depth ≤ Draft.maxDepth
  header_le_mark : ∀ mark ∈ o.marks, Header.size ≤ mark
  mark_le : ∀ mark ∈ o.marks, mark + AttributeHeader.size ≤ o.length
  marks_apart : o.marks.Pairwise fun inner outer => outer + AttributeHeader.size ≤ inner

/-- The closed attributes have lengths that fit and carry them; none of them starts in the header of
an open one. -/
structure Intact (o : Outline) : Prop extends Nested o where
  header_le_start : ∀ span ∈ o.spans, Header.size ≤ span.start
  start_le : ∀ span ∈ o.spans, span.start + AttributeHeader.size ≤ span.stop
  stop_le : ∀ span ∈ o.spans, span.stop ≤ o.length
  length_le : ∀ span ∈ o.spans, span.stop - span.start ≤ Draft.maxAttributeLength
  measures : ∀ span ∈ o.spans, o.Measures span
  spans_apart : ∀ mark ∈ o.marks, ∀ span ∈ o.spans,
    mark + AttributeHeader.size ≤ span.start ∨ span.start + AttributeHeader.size ≤ mark

/-- Before anything was closed there is nothing to say about closed attributes. -/
lemma Nested.intact (h : o.Nested) (hspans : o.spans = []) : o.Intact := by
  constructor
  · exact h
  all_goals simp [hspans]

/-- A slice of the message does not change when the message is continued. -/
lemma Measures.append {span : Span} (h : o.Measures span) (hspan : span.start + 2 ≤ o.length)
    (hbytes : ∃ rest, o'.bytes = o.bytes ++ rest) : o'.Measures span := by
  obtain ⟨rest, hrest⟩ := hbytes
  rw [Measures, ← h, hrest]
  exact take_drop_congr fun i _ hi =>
    List.getElem?_append_left (by simp only [length] at hspan; omega)

/-- Nor when the length of another attribute is written. -/
lemma Measures.stamped {span : Span} (h : o.Measures span) (hspan : span.start + 2 ≤ o.length)
    (hmark : mark + AttributeHeader.size ≤ o.length)
    (hapart : mark + AttributeHeader.size ≤ span.start ∨ span.start + AttributeHeader.size ≤ mark) :
    (o.stamped mark outer).Measures span := by
  simp only [AttributeHeader.size, length] at hmark hapart hspan
  refine Measures.append (o := { o with
    bytes := overlay o.bytes mark (ofU16 (UInt16.ofNat (o.length - mark))) }) ?_ ?_ ⟨_, rfl⟩
  · rw [Measures, ← h]
    refine take_drop_congr fun i hi hi' => ?_
    rcases hapart with hapart | hapart
    · exact getElem?_overlay_of_le (by rw [length_ofU16]; omega) (by omega)
    · exact getElem?_overlay_of_lt (by omega) (by omega)
  · simp only [length]
    rw [length_overlay (by rw [length_ofU16]; omega)]
    exact hspan

/-- The length that was just written is the one that is read. -/
lemma measures_stamped (hmark : mark + AttributeHeader.size ≤ o.length) :
    (o.stamped mark outer).Measures { start := mark, stop := o.length } := by
  simp only [AttributeHeader.size, length] at hmark
  refine Measures.append (o := { o with
    bytes := overlay o.bytes mark (ofU16 (UInt16.ofNat (o.length - mark))) }) ?_ ?_ ⟨_, rfl⟩
  · have hfits : mark ≤ o.bytes.length := by omega
    exact take_drop_overlay hfits (length_ofU16 _)
  · simp only [length]
    rw [length_overlay (by rw [length_ofU16]; omega)]
    omega

lemma Intact.laid (h : o.Intact) (cells : List Cell) : (o.laid tape cells).Intact where
  header_le := by
    rw [length_laid]
    exact Nat.le_trans h.header_le (Nat.le_add_right ..)
  depth_le := h.depth_le
  header_le_mark := h.header_le_mark
  mark_le mark hmark := by
    rw [length_laid]
    exact Nat.le_trans (h.mark_le mark hmark) (Nat.le_add_right ..)
  marks_apart := h.marks_apart
  header_le_start := h.header_le_start
  start_le := h.start_le
  stop_le span hspan := by
    rw [length_laid]
    exact Nat.le_trans (h.stop_le span hspan) (Nat.le_add_right ..)
  length_le := h.length_le
  measures span hspan := by
    have hstart := h.start_le span hspan
    have hstop := h.stop_le span hspan
    simp only [AttributeHeader.size] at hstart
    exact (h.measures span hspan).append (by omega) ⟨_, rfl⟩
  spans_apart := h.spans_apart

lemma Intact.opened (h : o.Intact) (hdepth : o.depth < Draft.maxDepth) (kind : UInt16) :
    (o.opened kind).Intact where
  header_le := by
    rw [length_opened]
    exact Nat.le_trans h.header_le (Nat.le_add_right ..)
  depth_le := hdepth
  header_le_mark := List.forall_mem_cons.2 ⟨h.header_le, h.header_le_mark⟩
  mark_le := by
    rw [length_opened]
    exact List.forall_mem_cons.2 ⟨Nat.le_refl _, fun mark hmark =>
      Nat.le_trans (h.mark_le mark hmark) (Nat.le_add_right ..)⟩
  marks_apart := List.pairwise_cons.2 ⟨h.mark_le, h.marks_apart⟩
  header_le_start := h.header_le_start
  start_le := h.start_le
  stop_le span hspan := by
    rw [length_opened]
    exact Nat.le_trans (h.stop_le span hspan) (Nat.le_add_right ..)
  length_le := h.length_le
  measures span hspan := by
    have hstart := h.start_le span hspan
    have hstop := h.stop_le span hspan
    simp only [AttributeHeader.size] at hstart
    exact (h.measures span hspan).append (by omega) ⟨_, rfl⟩
  spans_apart := by
    refine List.forall_mem_cons.2 ⟨fun span hspan => .inr ?_, h.spans_apart⟩
    exact Nat.le_trans (h.start_le span hspan) (h.stop_le span hspan)

lemma Intact.stamped (h : o.Intact) (hmarks : o.marks = mark :: outer)
    (hlength : o.length - mark ≤ Draft.maxAttributeLength) : (o.stamped mark outer).Intact := by
  have hmem : ∀ outer' ∈ outer, outer' ∈ o.marks := by
    rw [hmarks]
    exact fun _ => List.mem_cons_of_mem mark
  have hmark : mark ∈ o.marks := hmarks ▸ List.mem_cons_self
  have hinside := h.mark_le mark hmark
  have hlength' : (o.stamped mark outer).length = align o.length := length_stamped hinside
  have hle := le_align o.length
  have hapart := h.marks_apart
  rw [hmarks, List.pairwise_cons] at hapart
  have hdepth := h.depth_le
  rw [depth, hmarks, List.length_cons] at hdepth
  exact {
    header_le := hlength' ▸ Nat.le_trans h.header_le hle
    depth_le := Nat.le_of_succ_le hdepth
    header_le_mark := fun outer' houter => h.header_le_mark outer' (hmem outer' houter)
    mark_le := fun outer' houter =>
      hlength' ▸ Nat.le_trans (h.mark_le outer' (hmem outer' houter)) hle
    marks_apart := hapart.2
    header_le_start := List.forall_mem_cons.2 ⟨h.header_le_mark mark hmark, h.header_le_start⟩
    start_le := List.forall_mem_cons.2 ⟨hinside, h.start_le⟩
    stop_le := hlength' ▸ List.forall_mem_cons.2 ⟨hle, fun span hspan =>
      Nat.le_trans (h.stop_le span hspan) hle⟩
    length_le := List.forall_mem_cons.2 ⟨hlength, h.length_le⟩
    measures := by
      refine List.forall_mem_cons.2 ⟨measures_stamped hinside, fun span hspan => ?_⟩
      have hstart := h.start_le span hspan
      have hstop := h.stop_le span hspan
      simp only [AttributeHeader.size] at hstart
      exact (h.measures span hspan).stamped (by omega) hinside (h.spans_apart mark hmark span hspan)
    spans_apart := fun outer' houter => List.forall_mem_cons.2
      ⟨.inl (hapart.1 outer' houter), h.spans_apart outer' (hmem outer' houter)⟩ }

lemma Change.intact (h : Change tape o o') (ho : o.Intact) : o'.Intact := by
  cases h with
  | lay cells => exact ho.laid cells
  | «open» kind hdepth => exact ho.opened hdepth kind
  | close hmarks hlength => exact ho.stamped hmarks hlength

/-- Changes keep the message in order. -/
lemma Changes.intact (h : Changes tape o o') (ho : o.Intact) : o'.Intact := by
  induction h with
  | refl => exact ho
  | tail _ hchange ih => exact hchange.intact ih

/-- `o.Framed closed o'`: since `o`, the attributes of `closed` were closed, and nothing in front of
the old end has changed but their lengths. -/
structure Framed (o : Outline) (closed : List Span) (o' : Outline) : Prop where
  spans_eq : o'.spans = closed ++ o.spans
  length_le : o.length ≤ o'.length
  length_le_stop : ∀ span ∈ closed, o.length ≤ span.stop
  kept : ∀ place < o.length, (∀ span ∈ closed, place ≠ span.start ∧ place ≠ span.start + 1) →
    o'.bytes[place]? = o.bytes[place]?
  /-- What was closed or is still open was open before or was opened behind the old end. -/
  accounted : ∃ opened, (∀ mark ∈ opened, o.length ≤ mark) ∧
    closed.map Span.start ++ o'.marks ~ opened ++ o.marks

lemma Framed.refl (o : Outline) : o.Framed [] o :=
  ⟨rfl, Nat.le_refl _, by simp, fun _ _ _ => rfl, [], by simp, .refl _⟩

lemma Framed.trans {closed closed' : List Span} (h : o.Framed closed o')
    (h' : o'.Framed closed' o'') : o.Framed (closed' ++ closed) o'' := by
  obtain ⟨opened, hopened, hperm⟩ := h.accounted
  obtain ⟨opened', hopened', hperm'⟩ := h'.accounted
  refine ⟨?_, Nat.le_trans h.length_le h'.length_le, ?_, ?_, opened' ++ opened, ?_, ?_⟩
  · rw [h'.spans_eq, h.spans_eq, List.append_assoc]
  · intro span hspan
    rcases List.mem_append.1 hspan with hspan | hspan
    · exact Nat.le_trans h.length_le (h'.length_le_stop span hspan)
    · exact h.length_le_stop span hspan
  · intro place hplace hother
    rw [h'.kept place (Nat.lt_of_lt_of_le hplace h.length_le)
        fun span hspan => hother span (List.mem_append_left _ hspan),
      h.kept place hplace fun span hspan => hother span (List.mem_append_right _ hspan)]
  · intro mark hmark
    rcases List.mem_append.1 hmark with hmark | hmark
    · exact Nat.le_trans h.length_le (hopened' mark hmark)
    · exact hopened mark hmark
  · calc (closed' ++ closed).map Span.start ++ o''.marks
        = closed'.map Span.start ++ (closed.map Span.start ++ o''.marks) := by
          rw [List.map_append, List.append_assoc]
      _ ~ closed.map Span.start ++ (closed'.map Span.start ++ o''.marks) := by
          simp only [← List.append_assoc]
          exact List.perm_append_comm.append_right _
      _ ~ closed.map Span.start ++ (opened' ++ o'.marks) := hperm'.append_left _
      _ ~ opened' ++ (closed.map Span.start ++ o'.marks) := by
          simp only [← List.append_assoc]
          exact List.perm_append_comm.append_right _
      _ ~ opened' ++ (opened ++ o.marks) := hperm.append_left _
      _ = opened' ++ opened ++ o.marks := (List.append_assoc ..).symm

/-- A change stays within its frame. -/
lemma Change.framed (h : Change tape o o') (ho : o.Intact) : ∃ closed, o.Framed closed o' := by
  have hle := h.length_le
  have happended : ∀ {rest place}, place < o.length →
      (o.bytes ++ rest : List UInt8)[place]? = o.bytes[place]? :=
    fun hplace => List.getElem?_append_left hplace
  cases h with
  | lay cells =>
    exact ⟨[], rfl, hle, by simp, fun _ hplace _ => happended hplace, [], by simp, .refl _⟩
  | «open» kind =>
    exact ⟨[], rfl, hle, by simp, fun _ hplace _ => happended hplace, [o.length], by simp, .refl _⟩
  | close hmarks =>
    next mark outer _ =>
    have hinside := ho.mark_le mark (hmarks ▸ List.mem_cons_self)
    simp only [length, AttributeHeader.size] at hinside
    refine ⟨[{ start := mark, stop := o.length }], rfl, hle, by simp, ?_, [], by simp, ?_⟩
    · intro place hplace hother
      obtain ⟨hfirst, hsecond⟩ := hother _ (List.mem_singleton_self _)
      dsimp only at hfirst hsecond
      rw [stamped, List.getElem?_append_left (Nat.lt_of_lt_of_le hplace length_le_length_overlay)]
      rcases Nat.lt_or_ge place mark with hplace' | hplace'
      · exact getElem?_overlay_of_lt hplace' (by omega)
      · exact getElem?_overlay_of_le (by rw [length_ofU16]; omega) (by omega)
    · rw [hmarks]
      exact .refl _

/-- So does a row of changes. -/
lemma Changes.framed (h : Changes tape o o') (ho : o.Intact) : ∃ closed, o.Framed closed o' := by
  induction h with
  | refl => exact ⟨[], .refl o⟩
  | tail hchanges hchange ih =>
    obtain ⟨closed, hframed⟩ := ih
    obtain ⟨closed', hframed'⟩ := hchange.framed (Changes.intact hchanges ho)
    exact ⟨closed' ++ closed, hframed.trans hframed'⟩

end Outline

end Rtnetlink
