import Rtnetlink.Proofs.Room

/-!
# Layouts: what composing adds to a draft

The storage of an arena is seen as a tape without an end: behind what has been grown to so far it
holds zeros, and growing changes no byte of it.  A step that composes a message lays a row of cells
on the tape, where the message ended.  What is written is what the cells say, a gap keeps the byte
that was there, and the tape behind the message stays as it was.

* `Arena.Laid`: an arena with a row of cells laid behind its committed bytes;
* `Draft.Lays`: a run always succeeds where there is space, and lays a fixed row of cells;
* `Draft.Lays.andThen`, `Draft.Lays.enclosed`, `Draft.Lays.nest`: the layout of a composed run from
  the layouts of its parts.
-/

namespace Rtnetlink

open LittleEndian

/-! ## Cells settled over old bytes -/

section Settle

variable {cells cells' : List Cell} {old old' bytes : List UInt8}

@[simp] lemma length_settle (h : old.length = cells.length) :
    (settle cells old).length = cells.length := by
  rw [settle, List.length_zipWith, h, Nat.min_self]

@[simp] lemma length_written (bytes : List UInt8) : (written bytes).length = bytes.length :=
  List.length_map _

lemma written_append (bytes bytes' : List UInt8) :
    written (bytes ++ bytes') = written bytes ++ written bytes' :=
  List.map_append

lemma settle_append (h : old.length = cells.length) :
    settle (cells ++ cells') (old ++ old') = settle cells old ++ settle cells' old' :=
  List.zipWith_append h.symm

/-- Where every cell is written, no old byte is kept. -/
lemma settle_written (h : bytes.length ≤ old.length) : settle (written bytes) old = bytes := by
  induction bytes generalizing old with
  | nil => rfl
  | cons byte bytes ih =>
    cases old with
    | nil => simp at h
    | cons byte' old =>
      have hrest := @ih old (by simpa using h)
      exact congrArg (byte :: ·) hrest

/-- Only so many old bytes matter as there are cells. -/
lemma settle_take : settle cells (old.take cells.length) = settle cells old := by
  induction cells generalizing old with
  | nil => rfl
  | cons cell cells ih =>
    cases old with
    | nil => rfl
    | cons byte old => exact congrArg (cell.getD byte :: ·) ih

end Settle

namespace Arena

variable {ε : Type} {a a' a'' : Arena} {cells cells' : List Cell} {bytes : List UInt8}

/-! ## The tape -/

/-- The byte at a place of the storage.  What the storage has not grown to is zero. -/
def byteAt (a : Arena) (place : Nat) : UInt8 := a.storage.getD place 0

/-- So many bytes of the storage from a place on. -/
def window (a : Arena) (place count : Nat) : List UInt8 :=
  (List.range count).map fun i => a.byteAt (place + i)

@[simp] lemma length_window (place count : Nat) : (a.window place count).length = count := by
  rw [window, List.length_map, List.length_range]

lemma window_add (place m n : Nat) :
    a.window place (m + n) = a.window place m ++ a.window (place + m) n := by
  simp only [window, List.range_add, List.map_append, List.map_map]
  congr 1
  apply List.map_congr_left
  intro i _
  simp only [Function.comp_apply, Nat.add_assoc]

lemma window_congr {place count : Nat}
    (h : ∀ i, place ≤ i → i < place + count → a'.byteAt i = a.byteAt i) :
    a'.window place count = a.window place count := by
  apply List.map_congr_left
  intro i hi
  rw [List.mem_range] at hi
  exact h _ (by omega) (by omega)

/-- What is in the storage is what is on the tape. -/
lemma take_drop_storage {place count : Nat} (h : place + count ≤ a.capacity) :
    (a.storage.drop place).take count = a.window place count := by
  rw [capacity] at h
  apply List.ext_getElem
  · simp only [List.length_take, List.length_drop, length_window]
    omega
  · intro i hi hi'
    rw [length_window] at hi'
    have hplace : place + i < a.storage.length := by omega
    simp only [window, byteAt, List.getElem_take, List.getElem_drop, List.getElem_map,
      List.getElem_range, List.getD_eq_getElem?_getD, List.getElem?_eq_getElem hplace,
      Option.getD_some]

lemma byteAt_grown (zeros : Nat) (place : Nat) :
    byteAt { a with storage := a.storage ++ List.replicate zeros 0 } place = a.byteAt place := by
  simp only [byteAt, List.getD_eq_getElem?_getD, List.getElem?_append, List.getElem?_replicate]
  by_cases h : place < a.storage.length
  · rw [if_pos h]
  · rw [if_neg h, List.getElem?_eq_none (by omega)]
    split <;> rfl

lemma byteAt_overlay_of_le {offset place : Nat} (h : offset + bytes.length ≤ place)
    (hfits : offset + bytes.length ≤ a.capacity) :
    byteAt { a with storage := overlay a.storage offset bytes } place = a.byteAt place := by
  rw [capacity] at hfits
  simp only [byteAt, overlay, List.getD_eq_getElem?_getD]
  rw [List.getElem?_append_right (by simp only [List.length_append, List.length_take]; omega),
    List.getElem?_drop]
  simp only [List.length_append, List.length_take]
  rw [Nat.min_eq_left (by omega), Nat.add_sub_cancel' h]

/-! ## Laying cells -/

/-- `a.Laid cells a'`: the cells were laid behind the committed bytes of `a`. -/
structure Laid (a : Arena) (cells : List Cell) (a' : Arena) : Prop where
  fits : a'.committed ≤ a'.capacity
  data : a'.data = a.data ++ settle cells (a.window a.committed cells.length)
  behind : ∀ place, a'.committed ≤ place → a'.byteAt place = a.byteAt place

lemma Laid.committed (h : a.Laid cells a') (hfits : a.committed ≤ a.capacity) :
    a'.committed = a.committed + cells.length := by
  have hlength := congrArg List.length h.data
  rwa [List.length_append, length_settle (length_window ..), length_data hfits,
    length_data h.fits] at hlength

lemma Laid.refl (hfits : a.committed ≤ a.capacity) : a.Laid [] a :=
  ⟨hfits, (List.append_nil _).symm, fun _ _ => rfl⟩

/-- Cells laid one row behind the other. -/
lemma Laid.trans (hfits : a.committed ≤ a.capacity) (h : a.Laid cells a')
    (h' : a'.Laid cells' a'') : a.Laid (cells ++ cells') a'' := by
  have hmiddle := h.committed hfits
  have hend := h'.committed h.fits
  refine ⟨h'.fits, ?_, ?_⟩
  · have hsame : a'.window a'.committed cells'.length
        = a.window (a.committed + cells.length) cells'.length := by
      rw [hmiddle]
      exact window_congr fun i hi _ => h.behind i (by omega)
    rw [h'.data, h.data, hsame, List.length_append, window_add, settle_append (length_window ..),
      List.append_assoc]
  · intro place hplace
    rw [h'.behind place hplace, h.behind place (by omega)]

/-- The cells were laid, and the storage did not shrink. -/
structure Extended (a : Arena) (cells : List Cell) (a' : Arena) : Prop extends
    Laid a cells a' where
  capacity_le : a.capacity ≤ a'.capacity

section Operations

variable (hfits : a.committed ≤ a.capacity)
include hfits

/-- Bytes are written to the tail of storage that has been grown, and are committed. -/
lemma extended_of_grown {zeros : Nat} (hsmall : a.committed + cells.length ≤ Size.greatest)
    (hroom : a.committed + cells.length ≤ a.capacity + zeros)
    (hbytes : bytes = settle cells (a.window a.committed cells.length)) :
    ∃ a', (do write bytes; commit cells.length : Run ε Arena Unit)
        { a with storage := a.storage ++ List.replicate zeros 0 } = .ok () a' ∧
      a.Extended cells a' := by
  have hlength : bytes.length = cells.length := by
    rw [hbytes, length_settle (length_window ..)]
  have hgrown : (a.storage ++ List.replicate zeros 0).length = a.capacity + zeros := by
    simp [capacity]
  have hinside : a.committed + bytes.length ≤ (a.storage ++ List.replicate zeros 0).length := by
    omega
  have hcapacity := length_overlay hinside
  have hcommit := commit_eq_ok (ε := ε)
    (a := { a with storage := overlay (a.storage ++ List.replicate zeros 0) a.committed bytes })
    hsmall (by simp only [capacity]; omega)
  rw [Run.bind_of_ok (write_eq_ok hinside)]
  refine ⟨_, hcommit, ⟨?_, ?_, ?_⟩, ?_⟩
  · simp only [capacity]
    omega
  · -- the bytes in front of the written ones are those that were committed
    rw [← hbytes]
    simp only [capacity] at hfits
    simp only [Arena.data, overlay, List.take_append_of_le_length hfits]
    exact List.take_left' (by simp [Nat.min_eq_left hfits, hlength])
  · intro place hplace
    have hplace : a.committed + bytes.length ≤ place := hlength ▸ hplace
    have hsame := byteAt_overlay_of_le
      (a := { a with storage := a.storage ++ List.replicate zeros 0 }) hplace hinside
    exact hsame.trans (byteAt_grown zeros place)
  · simp only [capacity] at hgrown ⊢
    omega

lemma lay_extended (hspace : a.CanHold (a.committed + cells.length)) :
    ∃ a', (lay cells : Run ε Arena Unit) a = .ok () a' ∧ a.Extended cells a' := by
  obtain ⟨zeros, hroom, hreserve⟩ := reserve_eq_ok (ε := ε) hspace
  have htail : settle cells (tail { a with storage := a.storage ++ List.replicate zeros 0 })
      = settle cells (a.window a.committed cells.length) := by
    rw [← settle_take, tail, take_drop_storage]
    · congr 1
      exact window_congr fun i _ _ => byteAt_grown zeros i
    · simpa [capacity] using hroom
  rw [lay, Run.bind_of_ok hreserve, Run.bind_of_ok (Run.state_apply _)]
  exact extended_of_grown hfits hspace.1 hroom htail

lemma extend_extended (hspace : a.CanHold (a.committed + bytes.length)) :
    ∃ a', (extend bytes : Run ε Arena Unit) a = .ok () a' ∧ a.Extended (written bytes) a' := by
  obtain ⟨zeros, hroom, hreserve⟩ := reserve_eq_ok (ε := ε) hspace
  rw [extend, Run.bind_of_ok hreserve]
  rw [← length_written bytes] at hspace hroom ⊢
  exact extended_of_grown hfits hspace.1 hroom (settle_written (by simp)).symm

/-- Zeros are written like other bytes, after a check that there is room for them. -/
lemma extendZero_extended {amount : Nat} (hspace : a.CanHold (a.committed + amount)) :
    ∃ a', (extendZero amount : Run ε Arena Unit) a = .ok () a' ∧
      a.Extended (written (List.replicate amount 0)) a' := by
  obtain ⟨zeros, hroom, hreserve⟩ := reserve_eq_ok (ε := ε) hspace
  have hcheck : (checkRoom amount : Run ε Arena Unit)
      { a with storage := a.storage ++ List.replicate zeros 0 }
      = .ok () { a with storage := a.storage ++ List.replicate zeros 0 } := by
    rw [checkRoom, if_pos]
    simpa [capacity] using hroom
  have hlength : (written (List.replicate amount 0)).length = amount := by
    simp
  rw [extendZero, Run.bind_of_ok hreserve, Run.bind_of_ok hcheck]
  rw [← hlength] at hspace hroom
  have hlaid := extended_of_grown (ε := ε) hfits hspace.1 hroom (settle_written (by simp)).symm
  rwa [hlength] at hlaid

end Operations

/-- How a step ends that reserves room for cells first of all: they were laid, or it stopped because
there is no room for them. -/
def ExtendedOrStopped (a : Arena) (cells : List Cell) (outcome : Outcome ε Arena Unit) : Prop :=
  (∃ a', outcome = .ok () a' ∧ a.Extended cells a') ∨
    ¬ a.CanHold (a.committed + cells.length) ∧ ∃ a', outcome = .halted .tooLarge a'

lemma extended_or_stopped {amount : Nat} {rest : Unit → Run ε Arena Unit}
    (hamount : cells.length = amount) (hsmall : a.committed + cells.length ≤ Size.greatest)
    (hrun : a.CanHold (a.committed + cells.length) →
      ∃ a', (reserve amount >>= rest) a = .ok () a' ∧ a.Extended cells a') :
    a.ExtendedOrStopped cells ((reserve amount >>= rest) a) := by
  by_cases hroom : a.CanHold (a.committed + cells.length)
  · exact .inl (hrun hroom)
  · refine .inr ⟨hroom, a, Run.bind_of_halted ?_ _⟩
    rw [hamount] at hroom hsmall
    exact reserve_of_not_canHold hsmall hroom

/-- Bytes at the start of what was laid can still be replaced. -/
lemma Laid.overwrite (bytes' : List UInt8) (hfits : a.committed ≤ a.capacity)
    (h : a.Laid (written bytes ++ cells) a') (hlength : bytes'.length = bytes.length) :
    ∃ b, (patch a.committed bytes' : Run ε Arena Unit) a' = .ok () b ∧
      a.Laid (written bytes' ++ cells) b := by
  have hend := h.committed hfits
  have hfits' := h.fits
  simp only [List.length_append, length_written] at hend
  have hinside : a.committed + bytes'.length ≤ a'.committed := by omega
  have hpatch : (patch a.committed bytes' : Run ε Arena Unit) a'
      = .ok () { a' with storage := overlay a'.storage a.committed bytes' } :=
    if_pos ⟨hfits', hinside⟩
  refine ⟨_, hpatch, ?_, ?_, ?_⟩
  · simp only [capacity] at hfits' ⊢
    rw [length_overlay (by omega)]
    exact hfits'
  · rw [data_of_patch hpatch, h.data]
    simp only [List.length_append, length_written, hlength]
    rw [window_add, settle_append (by simp), settle_append (by simp [hlength]),
      settle_written (by simp), settle_written (by simp [hlength])]
    -- what is replaced stands behind the committed bytes of before
    rw [← length_data hfits, overlay, List.take_left, List.append_assoc, List.drop_append,
      List.drop_eq_nil_of_le (by omega), Nat.add_sub_cancel_left, List.nil_append,
      List.drop_left' hlength.symm]
  · intro place hplace
    have hplace : a.committed + bytes'.length ≤ place := Nat.le_trans hinside hplace
    exact (byteAt_overlay_of_le hplace (by omega)).trans (h.behind place (by omega))

end Arena

namespace Draft

/-! ## Runs that lay a fixed row of cells -/

/-- The message lies within the storage and ends where an attribute may start. -/
structure Ready (d : Draft) : Prop where
  fits : d.arena.committed ≤ d.arena.capacity
  aligned : 4 ∣ d.length

/-- `d.Laid cells d'`: the cells were laid behind the message, and the same attributes are open. -/
structure Laid (d : Draft) (cells : List Cell) (d' : Draft) : Prop where
  marks : d'.marks = d.marks
  arena : d.arena.Laid cells d'.arena

/-- Wherever there is space for the cells, and `levels` more attributes may be open, the run
succeeds and lays the cells. -/
def Lays (levels : Nat) (run : Run Misuse Draft Unit) (cells : List Cell) : Prop :=
  ∀ d : Draft, d.Ready → d.depth + levels ≤ maxDepth → d.arena.HasSpace cells.length →
    ∃ d', run d = .ok () d' ∧ d.Laid cells d'

/-- The cells of an attribute: its header, its value, and zeros up to the next multiple of four. -/
def attributeCells (kind : UInt16) (cells : List Cell) : List Cell :=
  written (AttributeHeader.encode { length := UInt16.ofNat (4 + cells.length), kind }) ++ cells
    ++ written (List.replicate (align cells.length - cells.length) 0)

lemma length_attributeCells (kind : UInt16) (cells : List Cell) :
    (attributeCells kind cells).length = 4 + align cells.length := by
  have hle := le_align cells.length
  simp only [attributeCells, List.length_append, length_written, AttributeHeader.length_encode,
    AttributeHeader.size, List.length_replicate]
  omega

lemma four_dvd_length_attributeCells (kind : UInt16) (cells : List Cell) :
    4 ∣ (attributeCells kind cells).length := by
  rw [length_attributeCells]
  exact (Nat.dvd_add_right (Nat.dvd_refl 4)).2 (four_dvd_align _)

variable {ε : Type} {d d' : Draft} {cells cells' : List Cell} {levels levels' : Nat}
  {run run' : Run Misuse Draft Unit}

lemma Laid.length (h : d.Laid cells d') (hd : d.Ready) : d'.length = d.length + cells.length :=
  h.arena.committed hd.fits

lemma Laid.ready (h : d.Laid cells d') (hd : d.Ready) (hcells : 4 ∣ cells.length) : d'.Ready :=
  ⟨h.arena.fits, h.length hd ▸ (Nat.dvd_add_right hd.aligned).2 hcells⟩

lemma laid_of_onArena {run : Run ε Arena Unit}
    (h : ∃ a', run d.arena = .ok () a' ∧ d.arena.Laid cells a') :
    ∃ d', onArena run d = .ok () d' ∧ d.Laid cells d' := by
  obtain ⟨a', hrun, hlaid⟩ := h
  exact ⟨_, onArena_eq_ok.2 ⟨a', hrun, rfl⟩, rfl, hlaid⟩

lemma Lays.mono (h : Lays levels run cells) (hlevels : levels ≤ levels') :
    Lays levels' run cells := by
  intro d hd hdepth hspace
  exact h d hd (by omega) hspace

lemma lays_pure : Lays 0 (pure ()) [] := by
  intro d hd _ _
  exact ⟨d, rfl, rfl, .refl hd.fits⟩

lemma lays_append (bytes : List UInt8) : Lays 0 (append bytes) (written bytes) := by
  intro d hd _ hspace
  rw [length_written] at hspace
  obtain ⟨a', hextend, hextended⟩ := Arena.extend_extended hd.fits hspace.canHold
  exact laid_of_onArena ⟨a', hextend, hextended.toLaid⟩

lemma lays_appendCells (cells : List Cell) : Lays 0 (appendCells cells) cells := by
  intro d hd _ hspace
  obtain ⟨a', hlay, hextended⟩ := Arena.lay_extended hd.fits hspace.canHold
  exact laid_of_onArena ⟨a', hlay, hextended.toLaid⟩

/-- One run after another lays one row behind the other. -/
lemma Lays.andThen (h : Lays levels run cells) (hcells : 4 ∣ cells.length)
    (h' : Lays levels run' cells') : Lays levels (do run; run') (cells ++ cells') := by
  intro d hd hdepth hspace
  simp only [Arena.HasSpace, List.length_append] at hspace
  obtain ⟨m, hrun, hlaid⟩ := h d hd hdepth (by simp only [Arena.HasSpace]; omega)
  have hcommitted := hlaid.arena.committed hd.fits
  obtain ⟨d', hrun', hlaid'⟩ := h' m (hlaid.ready hd hcells)
    (by rw [depth, hlaid.marks]; exact hdepth) (by simp only [Arena.HasSpace]; omega)
  refine ⟨d', ?_, hlaid'.marks.trans hlaid.marks, hlaid.arena.trans hd.fits hlaid'.arena⟩
  rw [Run.bind_of_ok hrun]
  exact hrun'

/-- Closing what was opened in front of the cells. -/
lemma closeAttribute_laid {m : Draft} {kind : UInt16} (hd : d.Ready)
    (hmarks : m.marks = d.length :: d.marks)
    (hlaid : d.arena.Laid (written (AttributeHeader.encode { length := 0, kind }) ++ cells) m.arena)
    (hlength : 4 + cells.length ≤ maxAttributeLength)
    (hspace : d.arena.HasSpace (attributeCells kind cells).length) :
    ∃ d', closeAttribute m = .ok () d' ∧ d.Laid (attributeCells kind cells) d' := by
  have hend : m.length = d.length + (4 + cells.length) := by
    have hcommitted := hlaid.committed hd.fits
    simp only [List.length_append, length_written, AttributeHeader.length_encode,
      AttributeHeader.size] at hcommitted
    exact hcommitted
  have hfrom : m.length - d.length = 4 + cells.length := by omega
  have hpad : align m.length - m.length = align cells.length - cells.length := by
    obtain ⟨start, hstart⟩ := hd.aligned
    simp only [align]
    omega
  rw [AttributeHeader.encode, written_append, List.append_assoc] at hlaid
  obtain ⟨b, hpatch, hpatched⟩ := hlaid.overwrite (ε := Misuse)
    (ofU16 (UInt16.ofNat (4 + cells.length))) hd.fits rfl
  rw [← List.append_assoc, ← written_append] at hpatched
  have hcommitted := hpatched.committed hd.fits
  have hlength' := length_attributeCells kind cells
  have hroom : b.HasSpace (align cells.length - cells.length) := by
    simp only [Arena.HasSpace, List.length_append, length_written,
      length_ofU16] at hspace hcommitted ⊢
    have hle := le_align cells.length
    omega
  obtain ⟨a', hextend, hpadded⟩ :=
    Arena.extendZero_extended (ε := Misuse) hpatched.fits hroom.canHold
  refine ⟨{ arena := a', marks := d.marks }, ?_, rfl, hpatched.trans hd.fits hpadded.toLaid⟩
  rw [closeAttribute_eq hmarks (by omega) (by omega) (by rw [hfrom]; exact hpatch), hpad]
  exact onArena_eq_ok.2 ⟨a', hextend, rfl⟩

/-- What happens between opening an attribute and closing it. -/
lemma Lays.opened {kind : UInt16} (h : Lays levels run cells)
    (hlength : 4 + cells.length ≤ maxAttributeLength) (hd : d.Ready)
    (hdepth : d.depth + (levels + 1) ≤ maxDepth)
    (hspace : d.arena.HasSpace (attributeCells kind cells).length) :
    ∃ m m' d', openAttribute kind d = .ok () m ∧ run m = .ok () m' ∧
      closeAttribute m' = .ok () d' ∧ m.depth = d.depth + 1 ∧ m'.depth = m.depth ∧
      d.Laid (attributeCells kind cells) d' := by
  have hcells := length_attributeCells kind cells
  have hle := le_align cells.length
  simp only [Arena.HasSpace] at hspace
  obtain ⟨o, happend, hheader⟩ :=
    lays_append (AttributeHeader.encode { length := 0, kind }) d hd (by omega)
      (by simp only [Arena.HasSpace, length_written, AttributeHeader.length_encode,
        AttributeHeader.size]; omega)
  have hopen : openAttribute kind d = .ok () { o with marks := d.length :: d.marks } := by
    rw [openAttribute, Run.bind_of_ok (Run.state_apply d), if_neg (by omega),
      Run.bind_of_ok happend, Run.modify_apply]
  have hstart : o.arena.committed = d.arena.committed + 4 := hheader.arena.committed hd.fits
  have hready : Draft.Ready { o with marks := d.length :: d.marks } := by
    refine ⟨hheader.arena.fits, ?_⟩
    show 4 ∣ o.arena.committed
    rw [hstart]
    exact (Nat.dvd_add_right hd.aligned).2 (Nat.dvd_refl 4)
  obtain ⟨m', hrun, hlaid⟩ := h _ hready
    (by simp only [depth, List.length_cons] at hdepth ⊢; omega)
    (by simp only [Arena.HasSpace]; omega)
  obtain ⟨d', hclose, hlaid'⟩ := closeAttribute_laid hd hlaid.marks
    (hheader.arena.trans hd.fits hlaid.arena) hlength hspace
  refine ⟨_, m', d', hopen, hrun, hclose, rfl, ?_, hlaid'⟩
  rw [depth, hlaid.marks, depth]

/-- A run between opening an attribute and closing it lays the attribute. -/
lemma Lays.enclosed (kind : UInt16) (h : Lays levels run cells)
    (hlength : 4 + cells.length ≤ maxAttributeLength) :
    Lays (levels + 1) (do openAttribute kind; run; closeAttribute) (attributeCells kind cells) := by
  intro d hd hdepth hspace
  obtain ⟨m, m', d', hopen, hrun, hclose, -, -, hlaid⟩ := h.opened hlength hd hdepth hspace
  refine ⟨d', ?_, hlaid⟩
  rw [Run.bind_of_ok hopen, Run.bind_of_ok hrun]
  exact hclose

/-- Closing from a level on closes the one attribute that is open there. -/
lemma closeFrom_of_depth (hclose : closeAttribute d = .ok () d') (hdepth : d'.depth < d.depth) :
    closeFrom d.depth d = .ok () d' := by
  rw [closeFrom, Run.bind_of_ok (Run.state_apply d)]
  obtain ⟨count, hcount⟩ := Nat.exists_eq_add_one_of_ne_zero (by omega : d.depth ≠ 0)
  rw [hcount, closeDown, Run.bind_of_ok (Run.state_apply d), if_neg (by omega),
    Run.bind_of_ok (Run.attempt_of_ok hclose)]
  cases count with
  | zero => rfl
  | succ count =>
    show closeDown _ (count + 1) d' = _
    rw [closeDown, Run.bind_of_ok (Run.state_apply d'), if_pos (by omega)]
    rfl

/-- So does a run inside an attribute that closes by itself. -/
lemma Lays.nest (kind : UInt16) (h : Lays levels run cells)
    (hlength : 4 + cells.length ≤ maxAttributeLength) :
    Lays (levels + 1) (Draft.nest kind run) (attributeCells kind cells) := by
  intro d hd hdepth hspace
  obtain ⟨m, m', d', hopen, hrun, hclose, hm, hm', hlaid⟩ := h.opened hlength hd hdepth hspace
  have hshut : d'.depth = d.depth := by
    rw [depth, hlaid.marks, depth]
  refine ⟨d', ?_, hlaid⟩
  rw [Draft.nest, Run.bind_of_ok hopen, Run.bind_of_ok (Run.state_apply m),
    Run.bind_of_ok (Run.attempt_of_ok hrun), ← hm',
    Run.bind_of_ok (closeFrom_of_depth hclose (by omega))]
  rfl

lemma lays_addAttribute (kind : UInt16) {value : List UInt8}
    (hlength : 4 + value.length ≤ maxAttributeLength) :
    Lays 1 (addAttribute kind value) (attributeCells kind (written value)) :=
  (lays_append value).enclosed kind (by rwa [length_written])

lemma lays_addAttributeCells (kind : UInt16) (hlength : 4 + cells.length ≤ maxAttributeLength) :
    Lays 1 (addAttributeCells kind cells) (attributeCells kind cells) :=
  (lays_appendCells cells).enclosed kind hlength

end Draft

end Rtnetlink
