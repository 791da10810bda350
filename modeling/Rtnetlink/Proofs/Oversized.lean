import Rtnetlink.Proofs.Composing

/-!
# Oversized attributes

An attribute that is longer than its length field can say cannot be closed, and what is appended
later only makes it longer.  It stays open for good, however many attributes are opened and closed
inside it and however often closing it is tried, so its message is never sent.  What is sent has all
its attributes closed, and each of them carries its true length.

* `Outline.Changes.stuck`: an open attribute that is too long stays open and too long;
* `Session.oversized_never_sent`: no message with such an attribute is sent, and in a message that
  is sent all lengths are true.
-/

namespace Rtnetlink

open LittleEndian

lemma LittleEndian.toU16_of_take {bytes : List UInt8} {word : UInt16}
    (h : bytes.take 2 = ofU16 word) : toU16 bytes = word := by
  have hword := toU16_ofU16_append word []
  rwa [toU16, List.take_left' (length_ofU16 word), ← h] at hword

namespace Outline

variable {tape : Nat → UInt8} {o o' : Outline} {mark : Nat} {outer : List Nat}

/-- The attribute at the mark is open inside those of `outer`, and is too long to be closed. -/
structure Stuck (mark : Nat) (outer : List Nat) (o : Outline) : Prop where
  open_inside : mark :: outer <:+ o.marks
  long : Draft.maxAttributeLength < o.length - mark

lemma Change.stuck (h : Change tape o o') (ho : o.Stuck mark outer) : o'.Stuck mark outer := by
  have hlength := h.length_le
  have hlong := ho.long
  refine ⟨?_, by omega⟩
  cases h with
  | lay => exact ho.open_inside
  | «open» => exact ho.open_inside.trans (List.suffix_cons ..)
  | close hmarks hshort =>
    rcases List.suffix_cons_iff.1 (hmarks ▸ ho.open_inside) with hsame | hinside
    · -- the attribute that is closed is not too long
      obtain ⟨rfl, -⟩ := List.cons.inj hsame
      omega
    · exact hinside

/-- No row of changes closes an attribute that is too long. -/
lemma Changes.stuck (h : Changes tape o o') (ho : o.Stuck mark outer) : o'.Stuck mark outer := by
  induction h with
  | refl => exact ho
  | tail _ hchange ih => exact hchange.stuck ih

/-- A closed attribute is read with its true length from the message that is sent. -/
lemma Intact.toNat_toU16 (ho : o.Intact) {span : Span} (hspan : span ∈ o.spans) {h : Header} :
    (toU16 ((h.encode ++ o.bytes.drop Header.size).drop span.start)).toNat
      = span.stop - span.start := by
  have hdrop : (h.encode ++ o.bytes.drop Header.size).drop span.start
      = o.bytes.drop span.start := by
    have hstart := ho.header_le_start span hspan
    rw [List.drop_append, List.drop_eq_nil_of_le (by simpa using hstart), List.nil_append,
      List.drop_drop, Header.length_encode, Nat.add_sub_cancel' hstart]
  have hlength := ho.length_le span hspan
  rw [hdrop, toU16_of_take (ho.measures span hspan)]
  exact UInt16.toNat_ofNat_of_lt' (Nat.lt_succ_of_le hlength)

end Outline

namespace Session

variable {ε : Type} {s s₁ : Session} {type flags : UInt16}

/-- What becomes of a message that is being composed, if these are its closed attributes. -/
structure SendsTrueLengths (s : Session) (spans : List Span) : Prop where
  /-- An open attribute that is too long for its length field stays open through all further edits,
  and every way to send the message is refused without a call. -/
  stuck : ∀ inner mark outer, s.draft.marks = inner ++ mark :: outer →
    Draft.maxAttributeLength < s.draft.length - mark → ∀ more : List Edit,
      s.draft.arena.CanHold (s.draft.outline.edited s.draft.arena.byteAt more).length →
        ∃ d inner', (Draft.editAll more : Run Misuse Draft Unit) s.draft = .ok () d ∧
          d.marks = inner' ++ mark :: outer ∧ RefusesOpen { s with draft := d }
  /-- With any attribute open the message is not sent. -/
  refused : 0 < s.draft.depth → s.RefusesOpen
  /-- With none open it is offered to the kernel, and the length field of each attribute is the
  distance from its header to the end of its value. -/
  sent : s.draft.depth = 0 → ∀ s', s.Submits s' → ∃ count message, 0 < count ∧
    s'.sent = s.sent ++ List.replicate count message ∧ ∀ span ∈ spans,
      span.stop ≤ message.length ∧
        (toU16 (message.drop span.start)).toNat = span.stop - span.start

/-- An attribute that is too long keeps its message from being sent, whatever is done next. -/
lemma refusesOpen_of_stuck {more : List Edit} {mark : Nat} {outer : List Nat}
    (hfits : s.draft.arena.committed ≤ s.draft.arena.capacity) (hnested : s.draft.outline.Nested)
    (hstuck : s.draft.outline.Stuck mark outer)
    (hroom : s.draft.arena.CanHold (s.draft.outline.edited s.draft.arena.byteAt more).length) :
    ∃ d inner, (Draft.editAll more : Run Misuse Draft Unit) s.draft = .ok () d ∧
      d.marks = inner ++ mark :: outer ∧ RefusesOpen { s with draft := d } := by
  obtain ⟨d, hmore, hd⟩ := Draft.Stages.editAll (ε := Misuse) more
    (Draft.stages_outline hfits hroom hnested) (Nat.le_refl _)
  obtain ⟨inner, hinside⟩ :=
    ((Outline.changes_edited s.draft.arena.byteAt more s.draft.outline).stuck hstuck).open_inside
  rw [← hd.marks_eq] at hinside
  have hdepth : 0 < d.depth := by
    rw [Draft.depth, ← hinside, List.length_append, List.length_cons]
    omega
  exact ⟨d, inner, hmore, hinside.symm, refusesOpen_of_depth_pos hdepth⟩

/-- **Oversized attributes are never sent.**  Take a message that was begun, after any edits that
have room, refused ones among them.  An attribute that is too long for its length field keeps it
from being sent for good, and if it is sent, all its attributes carry their true lengths. -/
theorem oversized_never_sent (hbegin : (begin type flags : Run ε Session Unit) s = .ok () s₁)
    (edits : List Edit)
    (hroom : s₁.draft.arena.CanHold
      (s₁.draft.outline.edited s₁.draft.arena.byteAt edits).length) :
    ∃ d, (Draft.editAll edits : Run Misuse Draft Unit) s₁.draft = .ok () d ∧
      SendsTrueLengths { s₁ with draft := d }
        (s₁.draft.outline.edited s₁.draft.arena.byteAt edits).spans := by
  obtain ⟨d, hedits, hd⟩ := stages_of_edits (δ := Misuse) hbegin edits hroom (Nat.le_refl _)
  refine ⟨d, hedits, ?_, fun hdepth => refusesOpen_of_depth_pos hdepth, ?_⟩
  · intro inner mark outer hmarks hlong more hmore
    have hstuck : d.outline.Stuck mark outer :=
      ⟨⟨inner, hmarks.symm⟩, by rwa [Draft.length_outline hd.fits]⟩
    exact refusesOpen_of_stuck hd.fits hd.nested hstuck hmore
  · intro hdepth s' hsubmits
    -- the message still starts with the header that it was begun with
    obtain ⟨-, -, houtline⟩ := begin_eq_ok hbegin
    have hchanges := Outline.changes_edited s₁.draft.arena.byteAt edits s₁.draft.outline
    rw [houtline] at hchanges
    have hbytes := hchanges.bytes_eq
    rw [← houtline, ← hd.bytes_eq] at hbytes
    have hsent := sent_of_staged (s := { s₁ with draft := d }) hd.fits
      (List.eq_nil_of_length_eq_zero hdepth) hbytes hsubmits
    refine ⟨_, _, RetryPolicy.attempts_pos _ _ _, hsent, fun span hspan => ?_⟩
    constructor
    · have hlength := congrArg List.length hbytes
      rw [List.length_append, Header.length_encode] at hlength ⊢
      rw [← hlength, hd.bytes_eq]
      exact hd.intact.stop_le span hspan
    · rw [hd.bytes_eq]
      exact hd.intact.toNat_toU16 hspan

/-- A value of 65532 bytes leaves its attribute open inside another, and closing it once more is
refused. -/
theorem oversized_value_never_sent :
    let s : Session := { portId := 7 }
    let s₁ := ((begin 16 5 : Run SessionError Session Unit) s).state
    let edits : List Edit :=
      [.openAttribute 1, .addAttribute 2 (List.replicate 65532 0), .closeAttribute]
    (begin 16 5 : Run SessionError Session Unit) s = .ok () s₁ ∧
      s₁.draft.arena.CanHold (s₁.draft.outline.edited s₁.draft.arena.byteAt edits).length ∧
      ∃ d, (Draft.editAll edits : Run Misuse Draft Unit) s₁.draft = .ok () d ∧
        SendsTrueLengths { s₁ with draft := d }
          (s₁.draft.outline.edited s₁.draft.arena.byteAt edits).spans := by
  intro s s₁ edits
  have hbegin : (begin 16 5 : Run SessionError Session Unit) s = .ok () s₁ := rfl
  -- the value is kept abstract, so that its bytes are not spelled out
  have hlength : ∀ value : List UInt8, value.length = 65532 →
      (s₁.draft.outline.edited s₁.draft.arena.byteAt
        [.openAttribute 1, .addAttribute 2 value, .closeAttribute]).length = 65556 := by
    intro value hvalue
    have hheader : s₁.draft.outline.length = 16 := rfl
    have hmarks : s₁.draft.outline.marks = [] := rfl
    simp [Outline.edited, Edit.effect, Outline.enclose, Outline.close, Outline.depth,
      Draft.maxDepth, Draft.maxAttributeLength, AttributeHeader.size, hheader, hmarks, hvalue]
  have hroom : s₁.draft.arena.CanHold
      (s₁.draft.outline.edited s₁.draft.arena.byteAt edits).length := by
    rw [hlength _ List.length_replicate]
    decide
  exact ⟨hbegin, hroom, oversized_never_sent hbegin edits hroom⟩

end Session

end Rtnetlink
