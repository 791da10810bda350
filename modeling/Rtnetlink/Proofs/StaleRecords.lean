import Rtnetlink.Proofs.Correlation

/-!
# Records of other requests

Batches may still hold records that answer earlier requests, which nobody waited for.  This file
deletes such records and compares what is heard with and without them.

Deleting a record of another number changes nothing, with one exception.  A record of type done
hides what stands behind it in its batch, and it does so whatever its number is.  If it is deleted,
awaited records that were hidden can come to light: those in front of the next record of type done
that is left.  They change the answer if they are read, that is, if they come to light up to the
batch that was the answer, and not behind an error that ends it.

* `Batch.heard_of_thinned`: what is heard in a thinned batch is what was heard in it before,
  followed by what has come to light;
* `Batch.Unnoticed`: what comes to light makes no difference to the answer;
* `Session.reads_of_thinned`: the answer to a request stays what it was exactly if what comes to
  light is not noticed.
-/

namespace Rtnetlink

open LittleEndian

/-! ## Decoding looks at a record's own bytes only -/

lemma Header.decode_congr {bytes bytes' : List UInt8} {h : Header}
    (hdecode : Header.decode bytes = .ok h) (hsame : bytes'.take size = bytes.take size) :
    Header.decode bytes' = .ok h := by
  have hfield : ∀ place width, place + width ≤ size →
      (bytes'.drop place).take width = (bytes.drop place).take width := by
    intro place width hplace
    have htake := congrArg (fun b => (b.drop place).take width) hsame
    simpa only [List.drop_take, List.take_take,
      Nat.min_eq_left (by omega : width ≤ size - place)] using htake
  have hlength := congrArg List.length hsame
  unfold Header.decode at hdecode ⊢
  split at hdecode
  · cases hdecode
  · cases hdecode
    simp only [List.length_take] at hlength
    rw [if_neg (by omega)]
    have hstart := hfield 0 4 (by decide)
    simp only [List.drop_zero] at hstart
    simp only [toU32, toU16, hstart, hfield 4 2 (by decide), hfield 6 2 (by decide),
      hfield 8 4 (by decide), hfield 12 4 (by decide)]

namespace Record

variable {bytes bytes' left : List UInt8} {r : Record}

lemma length_of_decode (h : decode bytes = .ok r) :
    Header.size ≤ r.header.length.toNat ∧ r.header.length.toNat ≤ bytes.length := by
  unfold decode at h
  rcases hheader : Header.decode bytes with cause | header <;> simp only [hheader] at h
  · cases h
  · split at h
    · cases h
    · split at h
      · cases h
      · cases h
        dsimp only
        omega

lemma decode_congr (h : decode bytes = .ok r)
    (hsame : bytes'.take r.header.length.toNat = bytes.take r.header.length.toNat) :
    decode bytes' = .ok r := by
  obtain ⟨hsize, hlength⟩ := length_of_decode h
  have hlength' := congrArg List.length hsame
  simp only [List.length_take] at hlength'
  unfold decode at h ⊢
  rcases hheader : Header.decode bytes with cause | header <;> simp only [hheader] at h
  · cases h
  · split at h
    · cases h
    · split at h
      · cases h
      · cases h
        dsimp only at hsize hlength hsame hlength'
        have hstart := congrArg (List.take Header.size) hsame
        rw [List.take_take, List.take_take, Nat.min_eq_left hsize] at hstart
        simp only [Header.decode_congr hheader hstart]
        rw [if_neg (by omega), if_neg (by omega), hsame]

/-- Other bytes may stand behind a record. -/
lemma decode_take_append (h : decode bytes = .ok r) :
    decode (bytes.take r.alignedLength ++ left) = .ok r := by
  obtain ⟨-, hlength⟩ := length_of_decode h
  have haligned : r.header.length.toNat ≤ r.alignedLength := le_align r.header.length.toNat
  apply decode_congr h
  rw [List.take_append_of_le_length, List.take_take, Nat.min_eq_left haligned]
  simp only [List.length_take]
  omega

end Record

namespace Batch

/-! ## Thinning a batch -/

/-- `Thinned number bytes left revealed`: deleting records of other numbers from the batch `bytes`
leaves `left`, and `revealed` are the records of the number that come to light because a record of
type done in front of them was deleted and none is left there. -/
inductive Thinned (number : UInt32) : (bytes left : List UInt8) → (revealed : List Record) → Prop
  /-- What cannot be decoded stays. -/
  | rest {bytes : List UInt8} {cause : Malformed} (hdecode : Record.decode bytes = .error cause) :
    Thinned number bytes bytes []
  /-- Any record may stay. -/
  | keep {bytes left : List UInt8} {revealed : List Record} {r : Record}
    (hdecode : Record.decode bytes = .ok r) (hdone : r.isDone = false)
    (hlater : Thinned number (bytes.drop r.alignedLength) left revealed) :
    Thinned number bytes (bytes.take r.alignedLength ++ left) revealed
  /-- Behind a record of type done that stays nothing comes to light. -/
  | keepDone {bytes left : List UInt8} {revealed : List Record} {r : Record}
    (hdecode : Record.decode bytes = .ok r) (hdone : r.isDone = true)
    (hlater : Thinned number (bytes.drop r.alignedLength) left revealed) :
    Thinned number bytes (bytes.take r.alignedLength ++ left) []
  /-- A record of another number may be deleted. -/
  | delete {bytes left : List UInt8} {revealed : List Record} {r : Record}
    (hdecode : Record.decode bytes = .ok r) (hdone : r.isDone = false)
    (hnumber : r.header.sequence ≠ number)
    (hlater : Thinned number (bytes.drop r.alignedLength) left revealed) :
    Thinned number bytes left revealed
  /-- Behind a record of type done that is deleted, what is heard in the rest comes to light. -/
  | deleteDone {bytes left : List UInt8} {revealed : List Record} {r : Record}
    (hdecode : Record.decode bytes = .ok r) (hdone : r.isDone = true)
    (hnumber : r.header.sequence ≠ number)
    (hlater : Thinned number (bytes.drop r.alignedLength) left revealed) :
    Thinned number bytes left (heard number left)

variable {number : UInt32} {bytes left : List UInt8} {revealed : List Record}

lemma Thinned.drop_take_append {r : Record}
    (hlater : Thinned number (bytes.drop r.alignedLength) left revealed) :
    (bytes.take r.alignedLength ++ left).drop r.alignedLength = left := by
  by_cases hlength : r.alignedLength ≤ bytes.length
  · exact List.drop_left' (by rw [List.length_take]; omega)
  · -- the padding of the last record is missing, and nothing stands behind it
    have hnil : bytes.drop r.alignedLength = [] := List.drop_eq_nil_of_le (by omega)
    rw [hnil] at hlater
    have hleft : left = [] := by
      cases hlater with
      | rest => rfl
      | keep hdecode => cases hdecode
      | keepDone hdecode => cases hdecode
      | delete hdecode => cases hdecode
      | deleteDone hdecode => cases hdecode
    rw [hleft, List.append_nil, List.take_of_length_le (by omega), hnil]

/-- What is heard in a thinned batch: what was heard before, and what has come to light. -/
lemma heard_of_thinned (h : Thinned number bytes left revealed) :
    heard number left = heard number bytes ++ revealed := by
  induction h with
  | rest => rw [List.append_nil]
  | keep hdecode hdone hlater ih =>
    rw [heard_of_ok (Record.decode_take_append hdecode) hdone, heard_of_ok hdecode hdone,
      hlater.drop_take_append, ih]
    split <;> rfl
  | keepDone hdecode hdone =>
    rw [heard_of_done (Record.decode_take_append hdecode) hdone, heard_of_done hdecode hdone]
    rfl
  | delete hdecode hdone hnumber _ ih =>
    rw [ih, heard_of_ok hdecode hdone, if_neg hnumber]
  | deleteDone hdecode hdone =>
    rw [heard_of_done hdecode hdone, List.nil_append]

lemma Thinned.length_le (h : Thinned number bytes left revealed) : left.length ≤ bytes.length := by
  induction h with
  | rest => exact Nat.le_refl _
  | keep _ _ _ ih =>
    simp only [List.length_append, List.length_take, List.length_drop] at ih ⊢
    omega
  | keepDone _ _ _ ih =>
    simp only [List.length_append, List.length_take, List.length_drop] at ih ⊢
    omega
  | delete _ _ _ _ ih =>
    simp only [List.length_drop] at ih
    omega
  | deleteDone _ _ _ _ ih =>
    simp only [List.length_drop] at ih
    omega

/-- `ThinnedAll number batches lefts revealed`: thinning the batches one by one leaves `lefts`,
where a batch of which nothing is left is dropped, and `revealed` is what comes to light in each of
them. -/
inductive ThinnedAll (number : UInt32) :
    (batches lefts : List (List UInt8)) → (revealed : List (List Record)) → Prop
  /-- There is no batch. -/
  | nil : ThinnedAll number [] [] []
  /-- Something is left of the first batch. -/
  | keep {bytes left : List UInt8} {batches lefts : List (List UInt8)} {shown : List Record}
    {revealed : List (List Record)} (hbatch : Thinned number bytes left shown) (hleft : left ≠ [])
    (hlater : ThinnedAll number batches lefts revealed) :
    ThinnedAll number (bytes :: batches) (left :: lefts) (shown :: revealed)
  /-- Nothing is left of the first batch. -/
  | drop {bytes : List UInt8} {batches lefts : List (List UInt8)} {shown : List Record}
    {revealed : List (List Record)} (hbatch : Thinned number bytes [] shown)
    (hlater : ThinnedAll number batches lefts revealed) :
    ThinnedAll number (bytes :: batches) lefts (shown :: revealed)

variable {batches lefts : List (List UInt8)} {shown : List Record} {revealed : List (List Record)}

/-- Thinned batches are no longer than the batches were, and none is empty. -/
lemma ThinnedAll.whole {room : Nat} (h : ThinnedAll number batches lefts revealed)
    (hwhole : ∀ d ∈ Delivery.ofBatches batches, d.IsWhole room) :
    ∀ d ∈ Delivery.ofBatches lefts, d.IsWhole room := by
  induction h with
  | nil => exact hwhole
  | keep hbatch hleft _ ih =>
    intro d hd
    rcases List.mem_cons.1 hd with rfl | hd
    · obtain ⟨-, hlength, -⟩ := hwhole _ List.mem_cons_self
      exact ⟨hleft, Nat.le_trans hbatch.length_le hlength, rfl, rfl⟩
    · exact ih (fun d hd => hwhole d (List.mem_cons_of_mem _ hd)) d hd
  | drop _ _ ih => exact ih fun d hd => hwhole d (List.mem_cons_of_mem _ hd)

section Answering

variable (policy : RetryPolicy) (drained : Int) (number : UInt32) (rest : List Delivery)

/-- What comes to light in the batches makes no difference to the answer, which ends in the first
batch in which anything is heard.  Nothing may come to light in that batch, unless an error is heard
there, which ends the answer in front of it.  What comes to light in an earlier batch is the answer
from then on, and that makes no difference only if it happens to tell what is told later.  Behind
the answer anything may come to light. -/
def Unnoticed : (batches : List (List UInt8)) → (revealed : List (List Record)) → Prop
  | bytes :: batches, shown :: revealed =>
    if heard number bytes ≠ [] then
      shown = [] ∨ ∃ r ∈ heard number bytes, ∃ cause, r.item = .error cause
    else if shown = [] then
      Unnoticed batches revealed
    else
      ∃ left, Delivery.answer policy drained number (Delivery.ofBatches batches ++ rest) 0
        = some (Item.upToError (shown.map Record.item), left)
  | _, _ => True

end Answering

/-- What stands behind some records is not told exactly if one of them makes an error. -/
lemma upToError_append_eq_iff (records later : List Record) :
    Item.upToError ((records ++ later).map Record.item) = Item.upToError (records.map Record.item)
      ↔ later = [] ∨ ∃ r ∈ records, ∃ cause, r.item = .error cause := by
  induction records with
  | nil =>
    rcases later with _ | ⟨r, later⟩
    · simp
    · rcases hitem : r.item <;> simp [Item.upToError, hitem]
  | cons r records ih =>
    rcases hitem : r.item with cause | response
    · have hreached : ∃ r' ∈ r :: records, ∃ cause, r'.item = .error cause :=
        ⟨r, List.mem_cons_self, cause, hitem⟩
      refine iff_of_true ?_ (.inr hreached)
      simp only [List.cons_append, List.map_cons, hitem, Item.upToError]
    · simpa [Item.upToError, hitem] using ih

variable {policy : RetryPolicy} {drained : Int} {rest : List Delivery}

/-- The answer that batches bring: what is heard in the first one, or what the others bring. -/
lemma answer_ofBatches_cons (bytes : List UInt8) (batches : List (List UInt8)) :
    Delivery.answer policy drained number (Delivery.ofBatches (bytes :: batches) ++ rest) 0
      = if heard number bytes = [] then
          Delivery.answer policy drained number (Delivery.ofBatches batches ++ rest) 0
        else
          some (Item.upToError ((heard number bytes).map Record.item),
            Delivery.ofBatches batches ++ rest) :=
  rfl

/-- Thinned batches bring the same items exactly if what comes to light is not noticed. -/
lemma ThinnedAll.answer_eq_iff (h : ThinnedAll number batches lefts revealed) :
    (Delivery.answer policy drained number (Delivery.ofBatches lefts ++ rest) 0).map Prod.fst
        = (Delivery.answer policy drained number
            (Delivery.ofBatches batches ++ rest) 0).map Prod.fst
      ↔ Unnoticed policy drained number rest batches revealed := by
  induction h with
  | nil => exact iff_of_true rfl trivial
  | @keep bytes left batches lefts shown revealed hbatch _ _ ih =>
    rw [answer_ofBatches_cons, answer_ofBatches_cons, heard_of_thinned hbatch, Unnoticed]
    by_cases hheard : heard number bytes = []
    · by_cases hshown : shown = []
      · -- the batch is passed over, with its records and without
        simpa [hheard, hshown] using ih
      · -- the batch is the answer once its records are gone
        simp only [hheard, hshown, List.nil_append, if_false, if_true, ne_eq, not_true_eq_false,
          Option.map_some]
        rw [eq_comm, Option.map_eq_some_iff]
        constructor
        · rintro ⟨⟨items, left⟩, hanswer, rfl⟩
          exact ⟨left, hanswer⟩
        · rintro ⟨left, hanswer⟩
          exact ⟨_, hanswer, rfl⟩
    · have hleft : heard number bytes ++ shown ≠ [] := by simp [hheard]
      simp only [hheard, hleft, if_false, ne_eq, not_false_eq_true, if_true, Option.map_some,
        Option.some.injEq]
      exact upToError_append_eq_iff _ _
  | @drop bytes batches lefts shown revealed hbatch _ ih =>
    have hnone := heard_of_thinned hbatch
    rw [heard_nil, eq_comm, List.append_eq_nil_iff] at hnone
    obtain ⟨hheard, hshown⟩ := hnone
    rw [answer_ofBatches_cons, Unnoticed]
    simpa [hheard, hshown] using ih

end Batch

/-- Two answers bring the same exactly if the same items are meant. -/
lemma Answer.Meets.reads_eq_iff {a a' : Answer}
    {meaning meaning' : Option (List Item × List Delivery)} (h : a.Meets meaning)
    (h' : a'.Meets meaning') :
    (∀ count, (a'.reads count).1 = (a.reads count).1)
      ↔ meaning'.map Prod.fst = meaning.map Prod.fst := by
  rcases meaning with _ | ⟨items, left⟩ <;> rcases meaning' with _ | ⟨items', left'⟩
  · exact iff_of_true (fun count => (h' count).trans (h count).symm) rfl
  · -- a call that never returns brings nothing
    refine iff_of_false (fun hsame => ?_) nofun
    have hone := (h' 1).1.symm.trans ((hsame 1).trans (h 1))
    cases hone
  · refine iff_of_false (fun hsame => ?_) nofun
    have hone := (h' 1).symm.trans ((hsame 1).trans (h 1).1)
    cases hone
  · simp only [(h _).1, (h' _).1, Option.map_some, Option.some.injEq]
    constructor
    · intro hsame
      apply List.ext_getElem?
      intro i
      exact List.map_inj_left.1 (hsame (i + 1)) i (List.mem_range.2 (Nat.lt_succ_self i))
    · rintro rfl count
      rfl

/-- **Which stale records influence an answer.**  Records of other numbers are deleted from the
batches that are delivered, and the batches of which nothing is left are dropped.  Then calling for
the next response brings the same as before exactly if what comes to light is not noticed: awaited
records come to light behind a deleted record of type done, and they are noticed unless they stand
behind an error or behind the batch that was the answer, or happen to tell the same. -/
theorem Session.reads_of_thinned {s s' : Session} {a : Answer} {batches lefts : List (List UInt8)}
    {revealed : List (List Record)} {rest : List Delivery}
    (hsent : Session.sendAcked s = .ok a s')
    (hdeliveries : s.channel.deliveries = Delivery.ofBatches batches ++ rest)
    (hwhole : ∀ d ∈ s.channel.deliveries, d.IsWhole a.session.batchRoom)
    (hthinned : Batch.ThinnedAll a.sequence batches lefts revealed) :
    ∃ a' t', Session.sendAcked (s.delivering (Delivery.ofBatches lefts ++ rest)) = .ok a' t' ∧
      ((∀ count, (a'.reads count).1 = (a.reads count).1) ↔
        Batch.Unnoticed s.options.retry s.channel.drained a.sequence rest batches revealed) := by
  have hsent' := Session.sendAcked_delivering (Delivery.ofBatches lefts ++ rest) hsent
  refine ⟨_, _, hsent', ?_⟩
  obtain ⟨ha, -, -, hoptions, hsame, hdrained⟩ := Session.sendAcked_eq_ok hsent
  have hsession : a.session = s' := by rw [ha]
  rw [← hsession] at hoptions hsame hdrained
  have hleft : ∀ d ∈ Delivery.ofBatches lefts ++ rest, d.IsWhole a.session.batchRoom := by
    intro d hd
    rw [hdeliveries] at hwhole
    rcases List.mem_append.1 hd with hd | hd
    · exact hthinned.whole (fun d hd => hwhole d (List.mem_append_left _ hd)) d hd
    · exact hwhole d (List.mem_append_right _ hd)
  have hmeets := Answer.meets_of_waits (Answer.waits_of_sendAcked hsent) (by rwa [hsame])
  have hmeets' := Answer.meets_of_waits (Answer.waits_of_sendAcked hsent') hleft
  rw [hmeets.reads_eq_iff hmeets', hsame, hdeliveries, ← hoptions, ← hdrained]
  exact hthinned.answer_eq_iff

/-- Request 9 was not waited for.  A record of type done that answers it hides the acknowledgment of
request 0 behind it, and without that record the answer is another one.  It is no other if the
request was acknowledged before, although an acknowledgment comes to light then too. -/
theorem Session.reads_of_thinned_of_done :
    let link := Header.encode { length := 16, type := MessageType.newLink, sequence := 9 }
    let done := Header.encode { length := 16, type := MessageType.done, sequence := 9 }
    let refusal := Header.encode { length := 20, type := 2, sequence := 9 } ++ ofI32 (-17)
    let ack := Header.encode { length := 20, type := 2 } ++ ofI32 0
    let acked : Record := ⟨{ length := 20, type := 2 }, ofI32 0⟩
    (∃ a s' a' t', Session.sendAcked (Session.asking [done ++ ack]) = .ok a s' ∧
      (∀ d ∈ Delivery.ofBatches [done ++ ack], d.IsWhole a.session.batchRoom) ∧
      Batch.ThinnedAll a.sequence [done ++ ack] [ack] [[acked]] ∧
      Session.sendAcked (Session.asking [ack]) = .ok a' t' ∧
      ¬ ∀ count, (a'.reads count).1 = (a.reads count).1) ∧
    ∃ a s' a' t',
      Session.sendAcked (Session.asking [link ++ done, refusal ++ ack, done ++ ack]) = .ok a s' ∧
      (∀ d ∈ Delivery.ofBatches [link ++ done, refusal ++ ack, done ++ ack],
        d.IsWhole a.session.batchRoom) ∧
      Batch.ThinnedAll a.sequence [link ++ done, refusal ++ ack, done ++ ack] [ack, ack]
        [[], [], [acked]] ∧
      Session.sendAcked (Session.asking [ack, ack]) = .ok a' t' ∧
      ∀ count, (a'.reads count).1 = (a.reads count).1 := by
  intro link done refusal ack acked
  have hnil : Batch.Thinned 0 [] [] [] := .rest rfl
  have hack : Batch.Thinned 0 ack ack [] := by
    have hdecode : Record.decode ack = .ok ⟨{ length := 20, type := 2 }, ofI32 0⟩ := rfl
    exact .keep hdecode rfl hnil
  have hrevealed : Batch.Thinned 0 (done ++ ack) ack [acked] := by
    have hdecode : Record.decode (done ++ ack)
        = .ok ⟨{ length := 16, type := 3, sequence := 9 }, []⟩ := rfl
    have hheard : Batch.heard 0 ack = [acked] := by decide +kernel
    exact hheard ▸ .deleteDone hdecode rfl (by decide) hack
  have hlink : Batch.Thinned 0 (link ++ done) [] [] := by
    have hdecode : Record.decode (link ++ done)
        = .ok ⟨{ length := 16, type := 16, sequence := 9 }, []⟩ := rfl
    have hdecode' : Record.decode done
        = .ok ⟨{ length := 16, type := 3, sequence := 9 }, []⟩ := rfl
    refine .delete hdecode rfl (by decide) ?_
    rw [← Batch.heard_nil]
    exact .deleteDone hdecode' rfl (by decide) hnil
  have hrefusal : Batch.Thinned 0 (refusal ++ ack) ack [] := by
    have hdecode : Record.decode (refusal ++ ack)
        = .ok ⟨{ length := 20, type := 2, sequence := 9 }, ofI32 (-17)⟩ := rfl
    exact .delete hdecode rfl (by decide) hack
  have hhidden : Batch.heard 0 (done ++ ack) = [] := by decide +kernel
  constructor
  · obtain ⟨a, s', hsent, hzero, hroom⟩ := Session.sendAcked_asking [done ++ ack]
    have hwhole : ∀ d ∈ Delivery.ofBatches [done ++ ack], d.IsWhole a.session.batchRoom := by
      rw [hroom]
      decide +kernel
    have hthinned : Batch.ThinnedAll a.sequence [done ++ ack] [ack] [[acked]] := by
      rw [hzero]
      exact .keep hrevealed (by decide) .nil
    obtain ⟨a', t', hsent', hreads⟩ :=
      Session.reads_of_thinned hsent (List.append_nil _).symm hwhole hthinned
    refine ⟨a, s', a', t', hsent, hwhole, hthinned, hsent', fun hsame => ?_⟩
    -- no other batch comes, and receiving fails
    have hunnoticed := hreads.1 hsame
    rw [hzero, Batch.Unnoticed, if_neg (not_not.2 hhidden),
      if_neg (List.cons_ne_nil _ _)] at hunnoticed
    obtain ⟨left, hanswer⟩ := hunnoticed
    cases hanswer
  · obtain ⟨a, s', hsent, hzero, hroom⟩ :=
      Session.sendAcked_asking [link ++ done, refusal ++ ack, done ++ ack]
    have hwhole : ∀ d ∈ Delivery.ofBatches [link ++ done, refusal ++ ack, done ++ ack],
        d.IsWhole a.session.batchRoom := by
      rw [hroom]
      decide +kernel
    have hthinned : Batch.ThinnedAll a.sequence [link ++ done, refusal ++ ack, done ++ ack]
        [ack, ack] [[], [], [acked]] := by
      rw [hzero]
      exact .drop hlink (.keep hrefusal (by decide) (.keep hrevealed (by decide) .nil))
    obtain ⟨a', t', hsent', hreads⟩ :=
      Session.reads_of_thinned hsent (List.append_nil _).symm hwhole hthinned
    refine ⟨a, s', a', t', hsent, hwhole, hthinned, hsent', hreads.2 ?_⟩
    have hpassed : Batch.heard 0 (link ++ done) = [] := by decide +kernel
    have hheard : Batch.heard 0 (refusal ++ ack) ≠ [] := by decide +kernel
    rw [hzero, Batch.Unnoticed, if_neg (not_not.2 hpassed), if_pos rfl, Batch.Unnoticed,
      if_pos hheard]
    exact .inl rfl

end Rtnetlink
