import Rtnetlink.Proofs.Receiving

/-!
# What the answer to a request is

The reader of an answer is a machine with a cursor: it keeps an offset into the batch in the arena,
and whether the batch held a record of the awaited number.  Here its meaning is said without any of
that.  A batch is cut into records; what stands in front of the first record of type done and has
the awaited number is what was *heard* in it.  The first batch in which anything is heard is the
answer, and reading it ends with the first record that reports an error or cannot be decoded.

* `Answer.reads` calls for the next response any number of times;
* `Delivery.answer` is the meaning of what the kernel delivers, said batch by batch;
* `Answer.next_of_holds`: a call inside a batch goes on to the next record that is heard;
* `Session.reads_of_sendAcked`: after a request has been sent, the calls bring the meaning of what
  is delivered, item by item, and nothing after it.
-/

namespace Rtnetlink

open LittleEndian

/-- What a call for the next response brings, unless the answer is over: a response, or the error
that ends the answer. -/
abbrev Item := Except SessionError Response

/-! ## The meaning of what is delivered -/

/-- What a record of the awaited number tells. -/
def Record.item (r : Record) : Item :=
  if r.header.type = MessageType.error then
    if r.payload.length < 4 then .error (.malformed (.truncated 4 r.payload.length))
    else if toI32 r.payload = 0 then .ok (.ofRecord r)
    else .error (.kernel (.ofNumber (Status.negated (toI32 r.payload)).toInt))
  else .ok (.ofRecord r)

/-- The records of a number that are heard in a batch: those in front of the first record of type
done. -/
def Batch.heard (number : UInt32) (bytes : List UInt8) : List Record :=
  ((Batch.toList { bytes }).takeWhile fun r => !r.isDone).filter (·.header.sequence == number)

/-- Items up to the first error, with it. -/
def Item.upToError : List Item → List Item
  | [] => []
  | .ok response :: items => .ok response :: upToError items
  | .error cause :: _ => [.error cause]

/-- Whether a call that keeps failing with this error is made for ever. -/
def RetryPolicy.endless (p : RetryPolicy) (e : Errno) : Bool :=
  e == .noBufferSpace || (p.isTransient e && p.maxRetries.isNone)

/-- The answer that deliveries bring to a number, after `retries` retries of the receive call: the
items that are heard and the deliveries that are left.  There is none if the receive call never
returns. -/
def Delivery.answer (policy : RetryPolicy) (drained : Int) (number : UInt32) :
    (deliveries : List Delivery) → (retries : Nat) → Option (List Item × List Delivery)
  | [], _ =>
    if policy.endless (.ofNumber drained) then none
    else some ([.error (.io (.ofNumber drained))], [])
  | .batch bytes _ _ :: rest, _ =>
    if Batch.heard number bytes = [] then answer policy drained number rest 0
    else some (Item.upToError ((Batch.heard number bytes).map Record.item), rest)
  | .failed code :: rest, retries =>
    if Errno.ofNumber code = .noBufferSpace then answer policy drained number rest retries
    else if policy.shouldRetry (.ofNumber code) retries then
      answer policy drained number rest (retries + 1)
    else some ([.error (.io (.ofNumber code))], rest)

/-- A batch that comes from the kernel, is not empty, is no longer than `room` and is reported with
its length.  A call that fails brings no batch. -/
def Delivery.IsWhole (room : Nat) : Delivery → Prop
  | .batch bytes claimed fromKernel =>
    bytes ≠ [] ∧ bytes.length ≤ room ∧ claimed.getD bytes.length = bytes.length ∧
      fromKernel = true
  | .failed _ => True

/-- Batches that come from the kernel and are reported with their length. -/
def Delivery.ofBatches (batches : List (List UInt8)) : List Delivery :=
  batches.map (.batch · none true)

instance (room : Nat) : DecidablePred (Delivery.IsWhole room)
  | .batch .. => inferInstanceAs (Decidable (_ ∧ _ ∧ _ ∧ _))
  | .failed _ => .isTrue trivial

/-! ## Calling for the next response -/

namespace Answer

/-- The results of `count` calls for the next response, and the answer after them.  A call that
halts has no result, and no call is made after it. -/
def reads : (count : Nat) → Answer → List (Option Item) × Answer
  | 0, a => ([], a)
  | count + 1, a =>
    match a.next with
    | .ok response rest =>
      let (items, last) := reads count rest
      (response.map .ok :: items, last)
    | .refused cause rest =>
      let (items, last) := reads count rest
      (some (.error cause) :: items, last)
    | .halted _ rest => ([], rest)

/-- Calling for the next response brings the given items in order and then nothing, however often
it is called; after the first call the given deliveries are left. -/
def Brings (a : Answer) (items : List Item) (left : List Delivery) : Prop :=
  ∀ count, (a.reads count).1 = (List.range count).map (items[·]?) ∧
    (0 < count → (a.reads count).2.session.channel.deliveries = left)

/-- Calling for the next response agrees with the meaning of what is delivered. -/
def Meets (a : Answer) : (meaning : Option (List Item × List Delivery)) → Prop
  | none => ∀ count, (a.reads count).1 = []
  | some (items, left) => a.Brings items left

variable {a rest : Answer} {items : List Item} {left : List Delivery}

lemma next_eq (a : Answer) :
    a.next = match a.step with
      | .yield response rest => .ok (some response) rest
      | .fail cause rest => .refused cause rest
      | .finish rest => .ok none rest
      | .halt fault rest => .halted fault rest
      | .advance rest => rest.next := by
  rw [next]
  split <;> simp only [*]

lemma next_of_advance (h : a.step = .advance rest) : a.next = rest.next := by
  rw [next_eq, h]

/-- Only the next call matters for what the calls bring. -/
lemma Meets.of_next {meaning : Option (List Item × List Delivery)}
    (hnext : a.next = rest.next) (h : rest.Meets meaning) : a.Meets meaning := by
  have hreads : ∀ count, 0 < count → a.reads count = rest.reads count := by
    intro count hcount
    obtain ⟨count, rfl⟩ := Nat.exists_eq_add_one_of_ne_zero (by omega : count ≠ 0)
    rw [reads, reads, hnext]
  rcases meaning with _ | ⟨items, left⟩
  · intro count
    rcases Nat.eq_zero_or_pos count with rfl | hcount
    · rfl
    · rw [hreads count hcount]
      exact h count
  · intro count
    rcases Nat.eq_zero_or_pos count with rfl | hcount
    · exact ⟨rfl, fun h => absurd h (by omega)⟩
    · rw [hreads count hcount]
      exact h count

/-- An answer that is over brings nothing. -/
lemma brings_of_finished (h : a.finished = true)
    (hleft : a.session.channel.deliveries = left) : a.Brings [] left := by
  have hnext : a.next = .ok none a := by
    rw [next_eq, step, if_pos h]
  have hreads : ∀ count, a.reads count = (List.replicate count none, a) := by
    intro count
    induction count with
    | zero => rfl
    | succ count ih =>
      rw [reads, hnext]
      simp only [ih]
      rfl
  intro count
  rw [hreads]
  refine ⟨?_, fun _ => hleft⟩
  simp only [List.getElem?_nil]
  rw [List.map_const', List.length_range]

/-- If a call brings an item, the items go on with those of the rest. -/
lemma Brings.of_item {item : Item}
    (hreads : ∀ count, a.reads (count + 1)
      = (some item :: (rest.reads count).1, (rest.reads count).2))
    (hleft : rest.session.channel.deliveries = left) (h : rest.Brings items left) :
    a.Brings (item :: items) left := by
  intro count
  cases count with
  | zero => exact ⟨rfl, fun h => absurd h (by omega)⟩
  | succ count =>
    rw [hreads]
    constructor
    · rw [List.range_succ_eq_map, List.map_cons, List.map_map]
      exact congrArg _ (h count).1
    · intro _
      cases count with
      | zero => exact hleft
      | succ count => exact (h (count + 1)).2 (by omega)

lemma Brings.of_response {response : Response} (hnext : a.next = .ok (some response) rest)
    (hleft : rest.session.channel.deliveries = left) (h : rest.Brings items left) :
    a.Brings (.ok response :: items) left := by
  refine Brings.of_item (fun count => ?_) hleft h
  rw [reads, hnext]
  rfl

/-- If a call brings an error, the answer is over with it. -/
lemma brings_of_refused {cause : SessionError} (hnext : a.next = .refused cause rest)
    (hrest : rest.finished = true) (hleft : rest.session.channel.deliveries = left) :
    a.Brings [.error cause] left := by
  refine Brings.of_item (fun count => ?_) hleft (brings_of_finished hrest hleft)
  rw [reads, hnext]

/-! ## Inside a batch -/

/-- The answer is being read in a batch of these bytes. -/
structure Holds (a : Answer) (bytes : List UInt8) : Prop where
  data : a.session.draft.arena.data = bytes
  length : a.length = bytes.length
  unfinished : a.finished = false

lemma judge_eq (r : Record) (a : Answer) :
    judge r a = match r.item with
      | .ok response => .yield response a
      | .error cause => .fail cause { a with finished := true } := by
  by_cases htype : r.header.type = MessageType.error
  · have herror : r.isError = true := by simpa [Record.isError] using htype
    by_cases hshort : r.payload.length < 4
    · simp [judge, Record.item, Record.status?, Status.decode, Status.codeSize, herror, htype,
        hshort]
    · by_cases hcode : toI32 r.payload = 0 <;>
        simp [judge, Record.item, Record.status?, Status.decode, Status.codeSize,
          Status.errorNumber?, herror, htype, hshort, hcode]
  · have herror : r.isError = false := by simpa [Record.isError] using htype
    simp [judge, Record.item, Record.status?, herror, htype]

end Answer

namespace Batch

variable {number : UInt32} {bytes : List UInt8} {r : Record}

lemma heard_of_error {cause : Malformed} (h : Record.decode bytes = .error cause) :
    heard number bytes = [] := by
  have hnext : next? { bytes } = none := by
    simp only [next?, h]
  rw [heard, toList_eq_nil hnext]
  rfl

lemma heard_nil : heard number [] = [] := heard_of_error rfl

/-- A record of type done hides what stands behind it, whatever its number is. -/
lemma heard_of_done (h : Record.decode bytes = .ok r) (hdone : r.isDone = true) :
    heard number bytes = [] := by
  have hnext : next? { bytes } = some (r, { bytes := bytes.drop r.alignedLength }) := by
    simp only [next?, h]
  rw [heard, toList_eq_cons hnext, List.takeWhile_cons_of_neg (by simpa using hdone)]
  rfl

lemma heard_of_ok (h : Record.decode bytes = .ok r) (hdone : r.isDone = false) :
    heard number bytes = if r.header.sequence = number
      then r :: heard number (bytes.drop r.alignedLength)
      else heard number (bytes.drop r.alignedLength) := by
  have hnext : next? { bytes } = some (r, { bytes := bytes.drop r.alignedLength }) := by
    simp only [next?, h]
  rw [heard, toList_eq_cons hnext, List.takeWhile_cons_of_pos (by simpa using hdone),
    List.filter_cons]
  simp only [beq_iff_eq]
  rfl

end Batch

namespace Answer

variable {a : Answer} {bytes : List UInt8}

lemma step_of_holds (h : a.Holds bytes) (hin : a.offset < a.length) :
    a.step = match Record.decode (bytes.drop a.offset) with
      | .error _ => .advance { a with offset := a.length }
      | .ok record =>
        if record.isDone then
          .advance { a with offset := a.length }
        else if record.header.sequence ≠ a.sequence then
          .advance { a with offset := a.offset + record.alignedLength }
        else
          judge record { a with offset := a.offset + record.alignedLength, found := true } := by
  have hunfinished : ¬ a.finished = true := by simp [h.unfinished]
  have hdata : ¬ a.session.draft.arena.data.length < a.length := by
    rw [h.data, h.length]
    exact Nat.lt_irrefl _
  have htake : (a.session.draft.arena.data.take a.length).drop a.offset = bytes.drop a.offset := by
    rw [h.data, h.length, List.take_length]
  rw [← htake, step, if_neg hunfinished, if_neg (Nat.not_le.2 hin)]
  exact if_neg hdata

/-- A call inside a batch goes on to the next record that is heard in what is left of it; if none is
heard any more, it comes to the end of the batch. -/
lemma next_of_holds (h : a.Holds bytes) :
    ∃ offset, match Batch.heard a.sequence (bytes.drop a.offset) with
      | [] => a.length ≤ offset ∧ a.next = next { a with offset }
      | r :: rs => Batch.heard a.sequence (bytes.drop offset) = rs ∧ a.next = match r.item with
        | .ok response => .ok (some response) { a with offset, found := true }
        | .error cause => .refused cause { a with offset, found := true, finished := true } := by
  -- induction on what is left of the batch
  induction hn : bytes.length - a.offset using Nat.strongRecOn generalizing a with
  | _ n ih =>
    by_cases hend : a.length ≤ a.offset
    · refine ⟨a.offset, ?_⟩
      rw [List.drop_eq_nil_of_le (h.length ▸ hend), Batch.heard_nil]
      exact ⟨hend, rfl⟩
    · have hin : a.offset < a.length := Nat.not_le.1 hend
      have hstep := step_of_holds h hin
      rcases hdecode : Record.decode (bytes.drop a.offset) with cause | record <;>
        simp only [hdecode] at hstep
      · -- the tail of the batch cannot be decoded
        rw [Batch.heard_of_error hdecode]
        exact ⟨a.length, Nat.le_refl _, next_of_advance hstep⟩
      · rcases hdone : record.isDone with _ | _ <;> simp only [hdone] at hstep
        · have hsize := Record.size_le_alignedLength hdecode
          rw [Batch.heard_of_ok hdecode hdone, List.drop_drop]
          by_cases hnumber : record.header.sequence = a.sequence
          · rw [if_pos hnumber]
            refine ⟨a.offset + record.alignedLength, rfl, ?_⟩
            rw [next_eq, hstep]
            simp only [Bool.false_eq_true, if_false, hnumber, ne_eq, not_true_eq_false, judge_eq]
            rcases record.item with cause | response <;> rfl
          · -- a record of another number is passed over
            rw [if_neg hnumber]
            simp only [Bool.false_eq_true, if_false, hnumber, ne_eq, not_false_eq_true,
              if_true] at hstep
            have hless : bytes.length - (a.offset + record.alignedLength) < n := by
              rw [← hn, ← h.length]
              simp only [Header.size] at hsize
              omega
            have hrest := ih _ hless
              (a := { a with offset := a.offset + record.alignedLength })
              ⟨h.data, h.length, h.unfinished⟩ rfl
            rw [next_of_advance hstep]
            exact hrest
        · -- the rest of the batch is hidden
          rw [Batch.heard_of_done hdecode hdone]
          exact ⟨a.length, Nat.le_refl _, next_of_advance hstep⟩

/-- A batch in which something is heard is the answer: its items are brought up to the first error,
and no other batch is read. -/
lemma brings_of_found (h : a.Holds bytes) (hfound : a.found = true) :
    a.Brings (Item.upToError ((Batch.heard a.sequence (bytes.drop a.offset)).map Record.item))
      a.session.channel.deliveries := by
  induction hheard : Batch.heard a.sequence (bytes.drop a.offset) generalizing a with
  | nil =>
    obtain ⟨offset, hoffset⟩ := next_of_holds h
    rw [hheard] at hoffset
    obtain ⟨hend, hnext⟩ := hoffset
    -- at the end of the batch the answer is over
    have hstep : step { a with offset } = .finish { a with offset, finished := true } := by
      rw [step, if_neg (by simp [h.unfinished]), if_pos hend, if_pos hfound]
    have hover : next { a with offset, finished := true }
        = .ok none { a with offset, finished := true } := by
      rw [next_eq, step, if_pos rfl]
    have hsame : a.next = next { a with offset, finished := true } := by
      rw [hnext, next_eq, hstep, hover]
    have hbrings : Meets { a with offset, finished := true }
        (some ([], a.session.channel.deliveries)) := brings_of_finished rfl rfl
    exact hbrings.of_next hsame
  | cons r rs ih =>
    obtain ⟨offset, hoffset⟩ := next_of_holds h
    rw [hheard] at hoffset
    obtain ⟨hrest, hnext⟩ := hoffset
    rw [List.map_cons]
    rcases hitem : r.item with cause | response <;> simp only [hitem] at hnext
    · exact brings_of_refused hnext rfl rfl
    · have hrs := ih (a := { a with offset, found := true })
        ⟨h.data, h.length, h.unfinished⟩ rfl hrest
      exact hrs.of_response hnext rfl

/-- A batch that has just arrived is the answer if anything is heard in it; otherwise reading goes
on behind its end. -/
lemma Holds.meets (h : a.Holds bytes) (hoffset : a.offset = 0)
    {later : Option (List Item × List Delivery)}
    (hlater : ∀ offset, a.length ≤ offset → Meets { a with offset } later) :
    a.Meets (if Batch.heard a.sequence bytes = [] then later
      else some (Item.upToError ((Batch.heard a.sequence bytes).map Record.item),
        a.session.channel.deliveries)) := by
  obtain ⟨offset, hnext⟩ := next_of_holds h
  rw [hoffset, List.drop_zero] at hnext
  rcases hheard : Batch.heard a.sequence bytes with _ | ⟨r, rs⟩ <;> rw [hheard] at hnext
  · obtain ⟨hend, hnext⟩ := hnext
    rw [if_pos rfl]
    exact (hlater offset hend).of_next hnext
  · obtain ⟨hrs, hnext⟩ := hnext
    rw [if_neg (List.cons_ne_nil r rs), List.map_cons]
    rcases hitem : r.item with cause | response <;> simp only [hitem] at hnext
    · exact brings_of_refused hnext rfl rfl
    · have hrest := brings_of_found (a := { a with offset, found := true })
        ⟨h.data, h.length, h.unfinished⟩ rfl
      rw [hrs] at hrest
      exact hrest.of_response hnext rfl

end Answer

/-! ## From batch to batch -/

namespace Channel

variable {policy : RetryPolicy} {drained : Int} {room limit : Nat} {number : UInt32}

lemma receiveDrained_eq (policy : RetryPolicy) (room : Nat) (number : Int) (retries : Nat) :
    (receiveDrained policy room number retries).map (·.1)
      = if policy.endless (.ofNumber number) then none else some (.ofNumber number) := by
  by_cases hspace : Errno.ofNumber number = .noBufferSpace
  · simp [receiveDrained, RetryPolicy.endless, hspace]
  · by_cases htransient : policy.isTransient (.ofNumber number) = true
    · rcases hmax : policy.maxRetries <;>
        simp [receiveDrained, RetryPolicy.endless, hspace, htransient, hmax]
    · simp [receiveDrained, RetryPolicy.endless, hspace, htransient]

/-- The meaning of what is delivered, by what the next receive call ends with. -/
lemma answer_eq (deliveries : List Delivery) (retries : Nat)
    (hwhole : ∀ d ∈ deliveries, d.IsWhole limit) (hroom : limit ≤ room) :
    Delivery.answer policy drained number deliveries retries
      = match receiveAgainst policy room drained deliveries retries with
        | none => none
        | some (.failed errno, left, _) => some ([.error (.io errno)], left)
        | some (.batch bytes _ _, left, _) =>
          if Batch.heard number bytes = [] then Delivery.answer policy drained number left 0
          else some (Item.upToError ((Batch.heard number bytes).map Record.item), left) := by
  induction deliveries generalizing retries with
  | nil =>
    have hdrained := receiveDrained_eq policy room drained retries
    rw [Delivery.answer, receiveAgainst]
    rcases hcalls : receiveDrained policy room drained retries with _ | ⟨errno, calls⟩ <;>
      rw [hcalls] at hdrained
    · split at hdrained
      · rename_i hendless
        rw [if_pos hendless]
        rfl
      · cases hdrained
    · split at hdrained
      · cases hdrained
      · rename_i hends
        rw [if_neg hends]
        cases hdrained
        rfl
  | cons delivery rest ih =>
    have hrest : ∀ d ∈ rest, d.IsWhole limit := fun d hd => hwhole d (List.mem_cons_of_mem _ hd)
    cases delivery with
    | batch bytes claimed fromKernel =>
      obtain ⟨-, hlength, -, -⟩ := hwhole _ List.mem_cons_self
      have htake : bytes.take room = bytes := List.take_of_length_le (by omega)
      simp only [Delivery.answer, receiveAgainst, htake]
    | failed code =>
      rw [Delivery.answer, receiveAgainst]
      by_cases hspace : Errno.ofNumber code = .noBufferSpace
      · simp only [if_pos hspace]
        rw [ih retries hrest]
        rcases receiveAgainst policy room drained rest retries with _ | ⟨_ | _, left, calls⟩ <;> rfl
      · simp only [if_neg hspace]
        by_cases hretry : policy.shouldRetry (.ofNumber code) retries = true
        · simp only [if_pos hretry]
          rw [ih (retries + 1) hrest]
          rcases receiveAgainst policy room drained rest (retries + 1)
            with _ | ⟨_ | _, left, calls⟩ <;> rfl
        · simp only [if_neg hretry]

/-- If all batches are whole, so is the one that arrives next, and all that are left. -/
lemma whole_of_receiveAgainst {deliveries left : List Delivery} {retries : Nat}
    {bytes : List UInt8} {count : Nat} {fromKernel : Bool} {calls : List Exchange}
    (hwhole : ∀ d ∈ deliveries, d.IsWhole limit) (hroom : limit ≤ room)
    (h : receiveAgainst policy room drained deliveries retries
      = some (.batch bytes count fromKernel, left, calls)) :
    (bytes ≠ [] ∧ bytes.length ≤ limit ∧ count = bytes.length ∧ fromKernel = true) ∧
      ∀ d ∈ left, d.IsWhole limit := by
  induction deliveries generalizing retries calls with
  | nil => simp [receiveAgainst] at h
  | cons delivery rest ih =>
    have hrest : ∀ d ∈ rest, d.IsWhole limit := fun d hd => hwhole d (List.mem_cons_of_mem _ hd)
    cases delivery with
    | batch bytes' claimed fromKernel' =>
      obtain ⟨hbytes, hlength, hclaimed, hkernel⟩ := hwhole _ List.mem_cons_self
      have htake : bytes'.take room = bytes' := List.take_of_length_le (by omega)
      have hmin : min bytes'.length room = bytes'.length := by omega
      simp only [receiveAgainst, htake, hmin, hclaimed, Option.some.injEq, Prod.mk.injEq,
        Reception.batch.injEq] at h
      obtain ⟨⟨rfl, rfl, rfl⟩, rfl, -⟩ := h
      exact ⟨⟨hbytes, hlength, rfl, hkernel⟩, hrest⟩
    | failed code =>
      simp only [receiveAgainst] at h
      split at h
      · simp only [Option.map_eq_some_iff, Prod.mk.injEq] at h
        obtain ⟨⟨reception, left', calls'⟩, hinner, rfl, rfl, -⟩ := h
        exact ih hrest hinner
      · split at h
        · simp only [Option.map_eq_some_iff, Prod.mk.injEq] at h
          obtain ⟨⟨reception, left', calls'⟩, hinner, rfl, rfl, -⟩ := h
          exact ih hrest hinner
        · simp at h

end Channel

namespace Answer

variable {a : Answer}

/-- The answer waits for a batch: it has come to the end of the one before and has heard nothing. -/
structure Waits (a : Answer) : Prop where
  ended : a.length ≤ a.offset
  unheard : a.found = false
  unfinished : a.finished = false
  reserved : a.session.Reserved

lemma Waits.step_eq (h : a.Waits) : a.step = a.refill := by
  rw [step, if_neg (by simp [h.unfinished]), if_pos h.ended, if_neg (by simp [h.unheard])]

/-- When a batch arrives whole, the call goes on inside it, and it can be followed by another. -/
lemma Waits.next_of_batch (h : a.Waits) {bytes : List UInt8} {left : List Delivery}
    {calls : List Exchange}
    (hcall : Channel.receiveAgainst a.session.options.retry a.session.draft.arena.capacity
      a.session.channel.drained a.session.channel.deliveries 0
      = some (.batch bytes bytes.length true, left, calls))
    (hbytes : bytes ≠ []) (hlength : bytes.length ≤ a.session.batchRoom) :
    ∃ s', a.next = next { a with session := s', length := bytes.length, offset := 0 } ∧
      s'.draft.arena.data = bytes ∧ s'.Reserved ∧ s'.batchRoom = a.session.batchRoom ∧
      s'.channel.deliveries = left ∧ s'.channel.drained = a.session.channel.drained ∧
      s'.options = a.session.options := by
  have hreceive : a.session.channel.receive a.session.options.retry a.session.draft.arena.capacity
      = some (.batch bytes bytes.length true, { a.session.channel with
        deliveries := left
        log := a.session.channel.log ++ calls }) := by
    rw [Channel.receive, hcall]
    rfl
  obtain ⟨s', hreceived, hdata, hreserved, hroom, hchannel, hoptions⟩ :=
    Session.receive_of_batch h.reserved hreceive hbytes hlength
  refine ⟨s', ?_, hdata, hreserved, hroom, by rw [hchannel], by rw [hchannel], hoptions⟩
  apply next_of_advance
  rw [h.step_eq, refill, hreceived]

/-- When the receive call fails, so does the call, and the answer is over. -/
lemma Waits.brings_of_failed (h : a.Waits) {errno : Errno} {left : List Delivery}
    {calls : List Exchange}
    (hcall : Channel.receiveAgainst a.session.options.retry a.session.draft.arena.capacity
      a.session.channel.drained a.session.channel.deliveries 0
      = some (.failed errno, left, calls)) :
    a.Brings [.error (.io errno)] left := by
  have hreceive : a.session.channel.receive a.session.options.retry a.session.draft.arena.capacity
      = some (.failed errno, { a.session.channel with
        deliveries := left
        log := a.session.channel.log ++ calls }) := by
    rw [Channel.receive, hcall]
    rfl
  obtain ⟨s', hrefused, hchannel⟩ := Session.receive_of_failed h.reserved hreceive
  have hnext : a.next = .refused (.io errno) { a with session := s', finished := true } := by
    rw [next_eq, h.step_eq, refill, hrefused]
  exact brings_of_refused hnext rfl (by rw [hchannel])

/-- When the receive call never returns, neither does the call. -/
lemma Waits.reads_of_endless (h : a.Waits)
    (hcall : Channel.receiveAgainst a.session.options.retry a.session.draft.arena.capacity
      a.session.channel.drained a.session.channel.deliveries 0 = none) (count : Nat) :
    (a.reads count).1 = [] := by
  have hreceive : a.session.channel.receive a.session.options.retry a.session.draft.arena.capacity
      = none := by
    rw [Channel.receive, hcall]
    rfl
  obtain ⟨s', hhalted⟩ := Session.receive_of_endless h.reserved hreceive
  have hnext : a.next = .halted .endless { a with session := s' } := by
    rw [next_eq, h.step_eq, refill, hhalted]
  cases count with
  | zero => rfl
  | succ count => rw [reads, hnext]

/-- An answer that waits brings the meaning of what will be delivered. -/
lemma meets_of_waits (h : a.Waits)
    (hwhole : ∀ d ∈ a.session.channel.deliveries, d.IsWhole a.session.batchRoom) :
    a.Meets (Delivery.answer a.session.options.retry a.session.channel.drained a.sequence
      a.session.channel.deliveries 0) := by
  -- induction on the deliveries that are left
  induction hn : a.session.channel.deliveries.length using Nat.strongRecOn generalizing a with
  | _ n ih =>
    have hroom : a.session.batchRoom ≤ a.session.draft.arena.capacity := by
      simp only [Session.batchRoom]
      omega
    rw [Channel.answer_eq _ 0 hwhole hroom]
    rcases hcall : Channel.receiveAgainst a.session.options.retry a.session.draft.arena.capacity
        a.session.channel.drained a.session.channel.deliveries 0
      with _ | ⟨⟨bytes, length, fromKernel⟩ | errno, left, calls⟩
    · exact h.reads_of_endless hcall
    · obtain ⟨⟨hbytes, hlength, rfl, rfl⟩, hleft⟩ :=
        Channel.whole_of_receiveAgainst hwhole hroom hcall
      have hless := Channel.length_of_receiveAgainst hcall
      obtain ⟨s', hadvance, hdata, hreserved, hsameRoom, hdeliveries, hdrained, hoptions⟩ :=
        h.next_of_batch hcall hbytes hlength
      have hholds : Holds { a with session := s', length := bytes.length, offset := 0 } bytes :=
        ⟨hdata, rfl, h.unfinished⟩
      rw [← hdeliveries]
      refine (hholds.meets rfl fun offset hend => ?_).of_next hadvance
      -- nothing was heard in the batch, and the next one is waited for
      have hrest := ih left.length (by omega)
        (a := { a with session := s', length := bytes.length, offset })
        ⟨hend, h.unheard, h.unfinished, hreserved⟩
        (by simpa only [hdeliveries, hsameRoom] using hleft)
        (by rw [hdeliveries])
      simpa only [hoptions, hdrained] using hrest
    · exact h.brings_of_failed hcall

/-- An answer waits as soon as its request has been sent. -/
lemma waits_of_sendAcked {s s' : Session} (h : Session.sendAcked s = .ok a s') : a.Waits := by
  obtain ⟨ha, -, hreserved, -⟩ := Session.sendAcked_eq_ok h
  rw [ha]
  exact ⟨Nat.le_refl _, rfl, rfl, hreserved⟩

end Answer

/-- **The answer to a request.**  Once a request has been sent, calling for the next response brings
what the deliveries mean for the number in the request: item by item, then nothing, and no delivery
behind the answer is used.  If the receive call never returns, neither does the call for the next
response.  Batches are received whole: they are not empty, come from the kernel, fit into the
receive buffer (see `Session.batchRoom_of_reserved`) and are reported with their length. -/
theorem Session.reads_of_sendAcked {s s' : Session} {a : Answer}
    (hsent : Session.sendAcked s = .ok a s')
    (hwhole : ∀ d ∈ s.channel.deliveries, d.IsWhole a.session.batchRoom) :
    (Draft.sequence : Run SessionError Draft UInt32) s.draft = .ok a.sequence s.draft ∧
      match Delivery.answer s.options.retry s.channel.drained a.sequence s.channel.deliveries 0 with
      | none => ∀ count, (a.reads count).1 = []
      | some (items, left) => ∀ count,
        (a.reads count).1 = (List.range count).map (items[·]?) ∧
          (0 < count → (a.reads count).2.session.channel.deliveries = left) := by
  obtain ⟨ha, hnumber, -, hoptions, hdeliveries, hdrained⟩ := Session.sendAcked_eq_ok hsent
  have hsession : a.session = s' := by rw [ha]
  have hmeets := Answer.meets_of_waits (Answer.waits_of_sendAcked hsent)
    (by rwa [hsession, hdeliveries, ← hsession])
  rw [hsession, hoptions, hdeliveries, hdrained] at hmeets
  refine ⟨hnumber, ?_⟩
  rcases hanswer : Delivery.answer s.options.retry s.channel.drained a.sequence
    s.channel.deliveries 0 with _ | ⟨items, left⟩ <;> rw [hanswer] at hmeets
  · exact hmeets
  · exact hmeets

/-- A session that has begun request 0, about links, and will be delivered these batches. -/
def Session.asking (batches : List (List UInt8)) : Session where
  portId := 7
  nextSequence := 1
  draft.arena.storage := Header.encode { type := MessageType.getLink, flags := 1, portId := 7 }
  draft.arena.committed := Header.size
  channel.deliveries := Delivery.ofBatches batches

lemma Session.sendAcked_asking (batches : List (List UInt8)) :
    ∃ a s', Session.sendAcked (Session.asking batches) = .ok a s' ∧ a.sequence = 0 ∧
      a.session.batchRoom = 4096 := by
  have hasked : ∃ a s', Session.sendAcked (Session.asking []) = .ok a s' := ⟨_, _, rfl⟩
  obtain ⟨a₀, s₀, hasked⟩ := hasked
  have hsame : Session.asking batches
      = (Session.asking []).delivering (Delivery.ofBatches batches) := rfl
  obtain ⟨a, s', hsent⟩ : ∃ a s', Session.sendAcked (Session.asking batches) = .ok a s' := by
    rw [hsame]
    exact ⟨_, _, Session.sendAcked_delivering _ hasked⟩
  obtain ⟨ha, hnumber, hreserved, hoptions, -⟩ := Session.sendAcked_eq_ok hsent
  refine ⟨a, s', hsent, ?_, ?_⟩
  · have hzero : (Draft.sequence : Run SessionError Draft UInt32) (Session.asking batches).draft
        = .ok 0 (Session.asking batches).draft := rfl
    exact (Outcome.ok.inj (hnumber.symm.trans hzero)).1
  · have hsize : s'.options.receiveBufferSize ≤ Size.greatest := by
      rw [hoptions]
      exact (by decide : 4096 ≤ Size.greatest)
    rw [ha, Session.batchRoom_of_reserved hreserved hsize, hoptions]
    rfl

/-- A batch that answers request 9 is passed over; in the next one a link is followed by the refusal
of request 0, and what comes after the refusal is not read. -/
theorem Session.reads_of_refused_request :
    let link := Header.encode { length := 19, type := 16 } ++ [1, 2, 3, 0]
    let refusal := Header.encode { length := 20, type := 2 } ++ ofI32 (-13)
    let s := Session.asking [Header.encode { length := 16, type := 16, sequence := 9 },
      link ++ refusal ++ link, refusal]
    ∃ a s', Session.sendAcked s = .ok a s' ∧
      (∀ d ∈ s.channel.deliveries, d.IsWhole a.session.batchRoom) ∧
      ∀ count, (a.reads count).1 = (List.range count).map
          ([.ok ⟨16, 0, 0, [1, 2, 3]⟩, .error (.kernel ⟨13⟩)][·]?) ∧
        (0 < count → (a.reads count).2.session.channel.deliveries
          = [.batch refusal none true]) := by
  intro link refusal s
  obtain ⟨a, s', hsent, hzero, hroom⟩ := Session.sendAcked_asking
    [Header.encode { length := 16, type := 16, sequence := 9 }, link ++ refusal ++ link, refusal]
  have hwhole : ∀ d ∈ s.channel.deliveries, d.IsWhole a.session.batchRoom := by
    rw [hroom]
    decide +kernel
  obtain ⟨-, hreads⟩ := Session.reads_of_sendAcked hsent hwhole
  have hanswer : Delivery.answer s.options.retry s.channel.drained 0 s.channel.deliveries 0
      = some ([.ok ⟨16, 0, 0, [1, 2, 3]⟩, .error (.kernel ⟨13⟩)], [.batch refusal none true]) := by
    decide +kernel
  rw [hzero, hanswer] at hreads
  exact ⟨a, s', hsent, hwhole, hreads⟩

end Rtnetlink
