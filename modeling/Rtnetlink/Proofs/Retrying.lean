import Mathlib.Order.Bounds.Basic
import Rtnetlink.Proofs.InRange

/-!
# Which calls are made, and what they end with

A failed call on the channel is made again as the retry policy says.  Here the outcomes of the calls
are given as a row, and it is said at which place of the row the calling ends: for a message at the
first outcome that is a success or is not retried, and for a batch at the first one that is a batch
or a failure that is not retried.  The two count differently.  A message's failures are all counted;
while a batch is received, the failures for want of buffer space are not, and each batch counts from
zero.

* `RetryPolicy.SettlesSend`, `RetryPolicy.SettlesReceive`: whether an outcome ends the calling;
* `Channel.sendAgainst_settled`, `Channel.receiveAgainst_settled`: the calling ends at the first
  outcome that does;
* `Session.sendsUntil_of_inRange`: what becomes of a message that is sent;
* `Session.calls_until_settled`: the same, and what becomes of a batch that is received.
-/

namespace Rtnetlink

open LittleEndian

/-- Where the first place is none, the first one that is stands behind it. -/
lemma isLeast_succ {P : Nat → Prop} {k : Nat} (hzero : ¬ P 0) (h : IsLeast {i | P (i + 1)} k) :
    IsLeast {i | P i} (k + 1) := by
  refine ⟨h.1, fun i hi => ?_⟩
  cases i with
  | zero => exact absurd hi hzero
  | succ i => exact Nat.succ_le_succ (h.2 hi)

lemma isLeast_of_lt {P : Nat → Prop} {k : Nat} (h : P k) (hbefore : ∀ i < k, ¬ P i) :
    IsLeast {i | P i} k :=
  ⟨h, fun i hi => Nat.le_of_not_lt fun hlt => hbefore i hlt hi⟩

lemma isLeast_zero {P : Nat → Prop} (h : P 0) : IsLeast {i | P i} 0 :=
  isLeast_of_lt h fun _ hi => absurd hi (Nat.not_lt_zero _)

namespace RetryPolicy

variable {p : RetryPolicy} {k bound : Nat}

/-- The outcome ends the calling for a message, after so many retries: it is a success, or a failure
that is not retried. -/
def SettlesSend (p : RetryPolicy) (retries : Nat) (code : CallCode) : Prop :=
  code = 0 ∨ p.shouldRetry (.ofNumber code) retries = false

/-- The outcome ends the calling for a batch, after so many retries that count: it is a batch, or a
failure that is not retried.  A failure for want of buffer space is always retried. -/
def SettlesReceive (p : RetryPolicy) (retries : Nat) : Delivery → Prop
  | .batch .. => True
  | .failed number =>
    Errno.ofNumber number ≠ .noBufferSpace ∧ p.shouldRetry (.ofNumber number) retries = false

instance (p : RetryPolicy) (retries : Nat) (code : CallCode) :
    Decidable (p.SettlesSend retries code) :=
  inferInstanceAs (Decidable (_ ∨ _))

instance (p : RetryPolicy) (retries : Nat) : DecidablePred (p.SettlesReceive retries)
  | .batch .. => .isTrue trivial
  | .failed _ => inferInstanceAs (Decidable (_ ∧ _))

/-- With a bound, the calling ends when it is used up. -/
lemma le_bound {codes : Nat → CallCode} (hbound : p.maxRetries = some bound)
    (h : IsLeast {i | p.SettlesSend i (codes i)} k) : k ≤ bound := by
  have hsettles : p.SettlesSend bound (codes bound) := .inr (by simp [shouldRetry, hbound])
  exact h.2 hsettles

/-- The calls that are made up for have all failed. -/
lemma ne_zero_of_lt {codes : Nat → CallCode} (h : IsLeast {i | p.SettlesSend i (codes i)} k)
    {i : Nat} (hi : i < k) : codes i ≠ 0 := by
  intro hzero
  have hsettles : p.SettlesSend i (codes i) := .inl hzero
  exact Nat.not_lt.2 (h.2 hsettles) hi

end RetryPolicy

namespace Delivery

/-- Deliveries as a row: behind the last one, every call fails with the same number. -/
def row (deliveries : List Delivery) (drained : Int) (i : Nat) : Delivery :=
  deliveries.getD i (.failed drained)

/-- Whether making up for the failure counts as a retry. -/
def counts : Delivery → Bool
  | .failed number => Errno.ofNumber number != .noBufferSpace
  | .batch .. => false

/-- How many of the first `i` outcomes count as retries. -/
def counted (outcome : Nat → Delivery) (i : Nat) : Nat :=
  (List.range i).countP fun j => (outcome j).counts

/-- The bytes that arrive. -/
def bytes : Delivery → List UInt8
  | .failed _ => []
  | .batch bytes .. => bytes

/-- What a call with room for so many bytes reports: the length of the batch, or the negative of the
error number. -/
def result (room : Nat) : Delivery → Int
  | .failed number => -number
  | .batch bytes claimed _ => (claimed.getD (min bytes.length room) : Nat)

/-- What a call with room for so many bytes brings. -/
def reception (room : Nat) : Delivery → Reception
  | .failed number => .failed (.ofNumber number)
  | .batch bytes claimed fromKernel =>
    .batch (bytes.take room) (claimed.getD (min bytes.length room)) fromKernel

/-- What receiving into storage of so many bytes yields, if this outcome ends the calling: the
length of the batch, as far as there is storage.  An empty batch closes the session, whoever sent
it. -/
def verdict (room : Nat) : Delivery → Except SessionError Nat
  | .failed number => .error (.io (.ofNumber number))
  | .batch bytes claimed fromKernel =>
    let count := claimed.getD (min bytes.length room)
    if count = 0 then .error .closed
    else if fromKernel = false then .error .wrongAddress
    else .ok (min count room)

lemma counted_succ (outcome : Nat → Delivery) (i : Nat) :
    counted outcome (i + 1)
      = (if (outcome 0).counts then 1 else 0) + counted (fun j => outcome (j + 1)) i := by
  rw [counted, counted, List.range_succ_eq_map, List.countP_cons, List.countP_map, Nat.add_comm]
  rfl

end Delivery

/-- The outcome at a place of the row ends the calling for a batch, where `retries` retries were
made before the row and those in front of the place are counted on top. -/
def RetryPolicy.SettlesAt (p : RetryPolicy) (outcome : Nat → Delivery) (retries i : Nat) : Prop :=
  p.SettlesReceive (retries + Delivery.counted outcome i) (outcome i)

instance (p : RetryPolicy) (outcome : Nat → Delivery) (retries i : Nat) :
    Decidable (p.SettlesAt outcome retries i) :=
  inferInstanceAs (Decidable (p.SettlesReceive _ _))

namespace Channel

/-- The outcome of the send call after so many others. -/
def sendCode (c : Channel) (i : Nat) : CallCode := c.sendCodes.getD i 0

/-- The outcome of the receive call after so many others. -/
def delivery (c : Channel) : Nat → Delivery := Delivery.row c.deliveries c.drained

/-! ## Sending -/

/-- The calling ends at the first outcome that settles it.  By induction on the outcomes. -/
lemma sendAgainst_settled (policy : RetryPolicy) (message : List UInt8) (codes : List CallCode)
    (retries : Nat) :
    ∃ k, IsLeast {i | policy.SettlesSend (retries + i) (codes.getD i 0)} k ∧
      sendAgainst policy message codes retries
        = (if codes.getD k 0 = 0 then .ok () else .error (.ofNumber (codes.getD k 0)),
          codes.drop (k + 1),
          (List.range (k + 1)).map fun i => .sent message (codes.getD i 0)) := by
  induction codes generalizing retries with
  | nil => exact ⟨0, isLeast_zero (.inl rfl), rfl⟩
  | cons code rest ih =>
    rw [sendAgainst]
    by_cases hcode : code = 0
    · rw [if_pos hcode]
      exact ⟨0, isLeast_zero (.inl hcode), by simp [hcode]⟩
    rw [if_neg hcode]
    by_cases hretry : policy.shouldRetry (.ofNumber code) retries = true
    · obtain ⟨k, hk, hrest⟩ := ih (retries + 1)
      rw [if_pos hretry, hrest]
      refine ⟨k + 1, isLeast_succ ?_ ?_, ?_⟩
      · simp [RetryPolicy.SettlesSend, hcode, hretry]
      · simpa only [List.getD_cons_succ, Nat.add_right_comm, Nat.add_assoc] using hk
      · rw [List.range_succ_eq_map (n := k + 1), List.map_cons, List.map_map]
        rfl
    · rw [if_neg hretry]
      exact ⟨0, isLeast_zero (.inr (by simpa using hretry)), by simp [hcode]⟩

/-! ## Receiving -/

/-- What the calls for a batch come to against the given outcomes, after `retries` retries that
count: they end at the first outcome that settles them, or none does and they never end. -/
def ReceivesAs (policy : RetryPolicy) (room : Nat) (drained : Int) (deliveries : List Delivery)
    (retries : Nat) : Option (Reception × List Delivery × List Exchange) → Prop
  | none => ∀ i, ¬ policy.SettlesAt (Delivery.row deliveries drained) retries i
  | some received => ∃ k,
      IsLeast {i | policy.SettlesAt (Delivery.row deliveries drained) retries i} k ∧
      received = ((Delivery.row deliveries drained k).reception room, deliveries.drop (k + 1),
        (List.range (k + 1)).map fun i =>
          .received room ((Delivery.row deliveries drained i).result room))

variable {policy : RetryPolicy} {room : Nat} {drained number : Int} {rest : List Delivery}
  {retries : Nat} {received : Option (Reception × List Delivery × List Exchange)}

/-- A failure that does not end the calling stands in front of what follows. -/
lemma ReceivesAs.again
    (hretry : ¬ policy.SettlesReceive retries (.failed number))
    (h : ReceivesAs policy room drained rest
      (retries + if (Delivery.failed number).counts then 1 else 0) received) :
    ReceivesAs policy room drained (.failed number :: rest) retries
      (received.map fun (reception, left, calls) =>
        (reception, left, .received room (-number) :: calls)) := by
  have hrest : ∀ i, policy.SettlesAt (Delivery.row (.failed number :: rest) drained) retries (i + 1)
      ↔ policy.SettlesAt (Delivery.row rest drained)
        (retries + if (Delivery.failed number).counts then 1 else 0) i := by
    intro i
    rw [RetryPolicy.SettlesAt, Delivery.counted_succ, ← Nat.add_assoc]
    rfl
  cases received with
  | none =>
    intro i
    cases i with
    | zero => exact hretry
    | succ i => exact fun hi => h i ((hrest i).1 hi)
  | some received =>
    obtain ⟨k, hk, rfl⟩ := h
    refine ⟨k + 1, isLeast_succ hretry ?_, ?_⟩
    · simpa only [hrest] using hk
    · rw [List.range_succ_eq_map (n := k + 1), List.map_cons, List.map_map]
      rfl

/-- An outcome that settles the calling is the only one. -/
lemma ReceivesAs.of_settles {d : Delivery} (h : policy.SettlesReceive retries d) :
    ReceivesAs policy room drained (d :: rest) retries
      (some (d.reception room, rest, [.received room (d.result room)])) :=
  ⟨0, isLeast_zero h, rfl⟩

/-- Where every call fails with the same error, the bound says how many are made. -/
lemma receivesAs_drained (policy : RetryPolicy) (room : Nat) (drained : Int) (retries : Nat) :
    ReceivesAs policy room drained [] retries (receiveAgainst policy room drained [] retries) := by
  have hcounted : (Delivery.failed drained).counts = true → ∀ i,
      Delivery.counted (Delivery.row [] drained) i = i := by
    intro hcounts i
    have hall : ∀ j ∈ List.range i, (Delivery.row [] drained j).counts = true := fun _ _ => hcounts
    rw [Delivery.counted, List.countP_eq_length.2 hall, List.length_range]
  rw [receiveAgainst, receiveDrained]
  by_cases hspace : Errno.ofNumber drained = .noBufferSpace
  · rw [if_pos hspace]
    exact fun i hi => hi.1 hspace
  have hcounts : (Delivery.failed drained).counts = true := by
    simpa [Delivery.counts] using hspace
  rw [if_neg hspace]
  by_cases htransient : policy.isTransient (.ofNumber drained) = true
  · rw [if_pos htransient]
    rcases hbound : policy.maxRetries with _ | bound
    · intro i hi
      have hfinal := hi.2
      simp [RetryPolicy.shouldRetry, htransient, hbound] at hfinal
    · have hsettles : ∀ i, policy.SettlesAt (Delivery.row [] drained) retries i ↔
          bound - retries ≤ i := by
        intro i
        rw [RetryPolicy.SettlesAt, hcounted hcounts]
        simp only [Delivery.row, List.getD_nil, RetryPolicy.SettlesReceive, RetryPolicy.shouldRetry,
          htransient, hbound, Bool.true_and, decide_eq_false_iff_not]
        exact ⟨fun h => by omega, fun h => ⟨hspace, by omega⟩⟩
      refine ⟨bound - retries, ⟨(hsettles _).2 (Nat.le_refl _), fun i hi => (hsettles i).1 hi⟩, ?_⟩
      have hsame : ∀ i, Delivery.row [] drained i = .failed drained := fun _ => rfl
      simp only [hsame, List.drop_nil, List.map_const', List.length_range]
      rfl
  · rw [if_neg htransient]
    refine ⟨0, isLeast_zero ⟨hspace, ?_⟩, rfl⟩
    simp [RetryPolicy.shouldRetry, htransient]

/-- The calling ends at the first outcome that settles it.  By induction on the outcomes. -/
lemma receiveAgainst_settled (policy : RetryPolicy) (room : Nat) (drained : Int)
    (deliveries : List Delivery) (retries : Nat) :
    ReceivesAs policy room drained deliveries retries
      (receiveAgainst policy room drained deliveries retries) := by
  induction deliveries generalizing retries with
  | nil => exact receivesAs_drained policy room drained retries
  | cons d rest ih =>
    cases d with
    | batch bytes claimed fromKernel => exact .of_settles trivial
    | failed number =>
      rw [receiveAgainst]
      dsimp only
      by_cases hspace : Errno.ofNumber number = .noBufferSpace
      · rw [if_pos hspace]
        refine .again (fun h => h.1 hspace) ?_
        simpa [Delivery.counts, hspace] using ih retries
      rw [if_neg hspace]
      by_cases hretry : policy.shouldRetry (.ofNumber number) retries = true
      · rw [if_pos hretry]
        refine .again (fun h => by simp [RetryPolicy.SettlesReceive, hretry] at h) ?_
        simpa [Delivery.counts, hspace] using ih (retries + 1)
      · rw [if_neg hretry]
        exact .of_settles ⟨hspace, by simpa using hretry⟩

end Channel

/-! ## Sending a message -/

/-- A finished message, its length filled in. -/
def Draft.completed (d : Draft) : List UInt8 := overlay d.bytes 0 (ofU32 (UInt32.ofNat d.length))

/-- What a send call offered, and its outcome. -/
def Exchange.send? : Exchange → Option (List UInt8 × CallCode)
  | .sent message code => some (message, code)
  | .received .. => none

/-- While receiving, no send call is made. -/
lemma Channel.sends_of_receive {policy : RetryPolicy} {room : Nat} {c c' : Channel}
    {reception : Reception} (h : c.receive policy room = some (reception, c')) :
    c'.log.filterMap Exchange.send? = c.log.filterMap Exchange.send? ∧
      c'.sendCodes = c.sendCodes := by
  simp only [receive, Option.map_eq_some_iff, Prod.mk.injEq] at h
  obtain ⟨⟨reception', left, calls⟩, hreceive, -, rfl⟩ := h
  have hmessages := List.filterMap_eq_nil_iff.1 (messages_of_receiveAgainst hreceive)
  have hcalls : calls.filterMap Exchange.send? = [] := by
    refine List.filterMap_eq_nil_iff.2 fun call hcall => ?_
    have hmessage := hmessages call hcall
    cases call with
    | sent message code => cases hmessage
    | received => rfl
  exact ⟨by rw [List.filterMap_append, hcalls, List.append_nil], rfl⟩

/-- The committed part of storage that bytes were filled into starts with them. -/
lemma Arena.prefix_data_fill {a : Arena} {bytes : List UInt8} {length : Nat}
    (h : length ≤ a.capacity) :
    bytes.take length
      <+: Arena.data { a.fill (bytes.take a.capacity) with committed := length } := by
  simp only [data, fill, overlay, List.take_zero, List.nil_append, List.take_append, List.take_take,
    Nat.min_self, Nat.min_eq_left h]
  exact List.prefix_append ..

namespace Session

variable {s t : Session} {k : Nat}

/-- The send calls that were made so far, with their outcomes. -/
def sends (s : Session) : List (List UInt8 × CallCode) :=
  s.channel.log.filterMap Exchange.send?

/-- The send calls that were made, and those to come, are a view that receiving leaves alone. -/
lemma steady_sends : Steady fun s => (s.sends, s.channel.sendCodes) where
  draft _ _ := rfl
  receive h := Prod.ext (Channel.sends_of_receive h).1 (Channel.sends_of_receive h).2

/-- What becomes of the draft when it is sent, in any of the ways to send it: `k` calls fail and are
made again, and the next one ends it. -/
structure SendsUntil (s : Session) (k : Nat) : Prop where
  /-- The outcome at `k` is the first that is a success, or a failure that is not retried. -/
  first : IsLeast {i | s.options.retry.SettlesSend i (s.channel.sendCode i)} k
  /-- The outcomes before it are failures, so no more than one call succeeds. -/
  failed : ∀ i < k, s.channel.sendCode i ≠ 0
  /-- There are no more retries than the bound says. -/
  bounded : ∀ bound, s.options.retry.maxRetries = some bound → k ≤ bound
  /-- All `k + 1` calls offer the same bytes: the message with its length filled in. -/
  calls : ∀ t, s.Submits t → t.sends = s.sends ++
    (List.range (k + 1)).map fun i => (s.draft.completed, s.channel.sendCode i)
  /-- The outcomes behind them are left for later. -/
  left : ∀ t, s.Submits t → t.channel.sendCodes = s.channel.sendCodes.drop (k + 1)
  /-- After a success the message is sent. -/
  succeeds : s.channel.sendCode k = 0 →
    ∃ number t, transmit s = .ok number t ∧ send s = .ok () t
  /-- After a failure it is refused with that failure. -/
  refuses : s.channel.sendCode k ≠ 0 →
    ∃ t, s.RefusesToSend (.io (.ofNumber (s.channel.sendCode k))) t

/-- A finished draft is offered to the kernel until an outcome settles it. -/
lemma transmit_settled (hd : s.draft.InRange) (hdepth : s.draft.depth = 0) :
    ∃ k number t, IsLeast {i | s.options.retry.SettlesSend i (s.channel.sendCode i)} k ∧
      transmit s = (if s.channel.sendCode k = 0 then .ok number t
        else .refused (.io (.ofNumber (s.channel.sendCode k))) t) ∧
      t.channel = { s.channel with
        sendCodes := s.channel.sendCodes.drop (k + 1)
        log := s.channel.log ++
          (List.range (k + 1)).map fun i => .sent s.draft.completed (s.channel.sendCode i) } := by
  obtain ⟨d, hstamp, hbytes, -⟩ :=
    Draft.stampLength_eq_ok (ε := SessionError) hd.fits hd.header_le
  have hlength : ¬ d.bytes.length < Header.size := by
    have hheader := hd.header_le
    rw [← Draft.length_outline hd.fits] at hheader
    have hinside : 0 + (ofU32 (UInt32.ofNat s.draft.length)).length ≤ s.draft.bytes.length :=
      Nat.le_trans (by rw [length_ofU32]; decide) hheader
    rw [hbytes, length_overlay hinside]
    exact Nat.not_lt.2 hheader
  obtain ⟨header, hdecode⟩ : ∃ header, Header.decode d.bytes = .ok header :=
    ⟨_, if_neg hlength⟩
  obtain ⟨k, hk, hsend⟩ := Channel.sendAgainst_settled s.options.retry s.draft.completed
    s.channel.sendCodes 0
  simp only [Nat.zero_add] at hk
  refine ⟨k, header.sequence, { s with
    draft := d
    channel := { s.channel with
      sendCodes := s.channel.sendCodes.drop (k + 1)
      log := s.channel.log ++ (List.range (k + 1)).map fun i =>
        .sent s.draft.completed (s.channel.sendCode i) } }, hk, ?_, rfl⟩
  have hbytes : d.bytes = s.draft.completed := hbytes
  rw [transmit, Run.bind_of_ok (Run.state_apply s), if_neg (by omega),
    Run.bind_of_ok (onDraft_eq_ok.2 ⟨d, hstamp, rfl⟩), Run.bind_of_ok (Run.state_apply _)]
  simp only [hdecode]
  rw [Run.bind_apply, deliver, Channel.send]
  simp only [hbytes, hsend]
  by_cases hcode : s.channel.sendCode k = 0
  · rw [if_pos hcode, if_pos (show s.channel.sendCodes.getD k 0 = 0 from hcode)]
    rfl
  · rw [if_neg hcode, if_neg (show ¬ s.channel.sendCodes.getD k 0 = 0 from hcode)]
    rfl

/-- A finished draft is sent, or refused, as the first outcome says that settles it. -/
lemma sendsUntil_of_inRange (hd : s.draft.InRange) (hdepth : s.draft.depth = 0) :
    ∃ k, s.SendsUntil k := by
  obtain ⟨k, number, t, hk, htransmit, hchannel⟩ := transmit_settled hd hdepth
  have hstate : (transmit s).state = t := by
    rw [htransmit]
    split <;> rfl
  have hsends : t.sends = s.sends ++
      (List.range (k + 1)).map fun i => (s.draft.completed, s.channel.sendCode i) := by
    have hcalls : Exchange.send? ∘ (fun i => .sent s.draft.completed (s.channel.sendCode i))
        = some ∘ fun i => (s.draft.completed, s.channel.sendCode i) := rfl
    rw [sends, hchannel, List.filterMap_append, List.filterMap_map, hcalls, List.filterMap_eq_map]
    rfl
  have hview : ∀ u, s.Submits u →
      (u.sends, u.channel.sendCodes) = (t.sends, t.channel.sendCodes) := fun u hu =>
    (steady_sends.submits hu).trans (by rw [hstate])
  refine ⟨k, hk, fun i hi => RetryPolicy.ne_zero_of_lt hk hi,
    fun bound hbound => RetryPolicy.le_bound hbound hk,
    fun u hu => (Prod.mk.inj (hview u hu)).1.trans hsends,
    fun u hu => (Prod.mk.inj (hview u hu)).2.trans (by rw [hchannel]), fun hcode => ?_,
    fun hcode => ?_⟩
  · rw [if_pos hcode] at htransmit
    exact ⟨number, t, htransmit, Run.bind_of_ok htransmit _⟩
  · rw [if_neg hcode] at htransmit
    exact ⟨t, refusesToSend_of_transmit htransmit⟩

/-! ## Receiving a batch -/

/-- What becomes of a receive call with storage for `room` bytes: the calls on the channel up to the
one at `k` are made, and that one ends it. -/
structure ReceivesUntil (s : Session) (room k : Nat) : Prop where
  /-- The outcome at `k` is the first that is a batch, or a failure that is not retried; failures
  are counted from zero. -/
  first : IsLeast {i | s.options.retry.SettlesAt s.channel.delivery 0 i} k
  /-- It says what the call ends with.  The outcomes behind it are left for later, and a batch that
  is yielded stands in the arena. -/
  ends : ∃ t, (match (s.channel.delivery k).verdict room with
      | .error cause => receive s = .refused cause t
      | .ok length => receive s = .ok length t ∧ t.draft.length = length ∧
        (s.channel.delivery k).bytes.take length <+: t.draft.bytes) ∧
    t.channel = { s.channel with
      deliveries := s.channel.deliveries.drop (k + 1)
      log := s.channel.log ++ (List.range (k + 1)).map fun i =>
        .received room ((s.channel.delivery i).result room) }

/-- What a session fetches, by the outcomes of the calls to come. -/
lemma fetch_eq (s : Session) : fetch s
    = match Channel.receiveAgainst s.options.retry s.draft.arena.capacity s.channel.drained
        s.channel.deliveries 0 with
      | none => .halted .endless s
      | some (.failed errno, left, calls) => .refused (.io errno)
        { s with channel := { s.channel with deliveries := left, log := s.channel.log ++ calls } }
      | some (.batch bytes count fromKernel, left, calls) => .ok (count, fromKernel)
        { s with
          channel := { s.channel with deliveries := left, log := s.channel.log ++ calls }
          draft.arena := s.draft.arena.fill bytes } := by
  rw [fetch, Channel.receive]
  rcases Channel.receiveAgainst s.options.retry s.draft.arena.capacity s.channel.drained
    s.channel.deliveries 0 with _ | ⟨_ | _, left, calls⟩ <;> rfl

/-- Of a batch that stands at the start of the storage, no more is committed than fits. -/
lemma commit_batch (count : Nat) (hzero : s.draft.arena.committed = 0)
    (hsized : s.draft.arena.Sized) :
    (do let t ← Run.state
        let length := min count t.draft.arena.capacity
        onDraft (Draft.onArena (Arena.commit length))
        pure length : Run SessionError Session Nat) s
      = .ok (min count s.draft.arena.capacity)
        { s with draft.arena.committed := min count s.draft.arena.capacity } := by
  have hroom := Nat.min_le_right count s.draft.arena.capacity
  rw [Run.bind_of_ok (Run.state_apply s),
    Run.bind_of_ok (commit_eq_ok hzero (Nat.le_trans hroom hsized) hroom), Run.pure_apply]

/-- A batch is received as the first outcome says that settles it; there is no result if none does.
-/
lemma receive_settled (hs : s.Sized)
    (hclear : (clearForReceiving : Run SessionError Session Unit) s = .ok () t) :
    (∃ k, s.ReceivesUntil t.draft.arena.capacity k) ∨
      (∀ i, ¬ s.options.retry.SettlesAt s.channel.delivery 0 i) ∧
        receive s = .halted .endless t := by
  have hsized : t.Sized := by
    have hmaintains := maintains_clearForReceiving (ε := SessionError) s hs
    rwa [hclear] at hmaintains
  have hreceive : receive s = _ := Run.bind_of_ok hclear _
  rw [clearForReceiving, Run.bind_of_ok (Run.state_apply s)] at hclear
  obtain ⟨d, hd, rfl⟩ := onDraft_eq_ok.1 hclear
  obtain ⟨a, hreset, rfl⟩ := Draft.onArena_eq_ok.1 hd
  have hzero : a.committed = 0 := Arena.committed_of_reset hreset
  have hcalls := Channel.receiveAgainst_settled s.options.retry a.capacity s.channel.drained
    s.channel.deliveries 0
  have hfetch := fetch_eq { s with draft.arena := a }
  dsimp only at hfetch
  rcases hreceived : Channel.receiveAgainst s.options.retry a.capacity s.channel.drained
      s.channel.deliveries 0 with _ | received <;> rw [hreceived] at hcalls hfetch
  · -- no outcome settles it
    exact .inr ⟨hcalls, hreceive.trans (Run.bind_of_halted hfetch _)⟩
  obtain ⟨k, hk, rfl⟩ := hcalls
  refine .inl ⟨k, hk, ?_⟩
  rw [hreceive]
  rcases hdelivery : s.channel.delivery k with number | ⟨bytes, claimed, fromKernel⟩ <;>
    rw [show Delivery.row s.channel.deliveries s.channel.drained k = _ from hdelivery] at hfetch
  · exact ⟨_, Run.bind_of_refused hfetch _, rfl⟩
  rw [Run.bind_of_ok hfetch]
  simp only [Delivery.verdict]
  by_cases hempty : claimed.getD (min bytes.length a.capacity) = 0
  · rw [if_pos hempty, if_pos hempty]
    exact ⟨_, rfl, rfl⟩
  by_cases hforeign : fromKernel = false
  · rw [if_neg hempty, if_neg hempty, if_pos hforeign, if_pos hforeign]
    exact ⟨_, rfl, rfl⟩
  rw [if_neg hempty, if_neg hempty, if_neg hforeign, if_neg hforeign]
  have hcapacity := Arena.capacity_fill a (bytes.take a.capacity)
  have hcommit := commit_batch (claimed.getD (min bytes.length a.capacity))
    (s := { s with
      channel := { s.channel with
        deliveries := s.channel.deliveries.drop (k + 1)
        log := s.channel.log ++ (List.range (k + 1)).map fun i =>
          .received a.capacity ((s.channel.delivery i).result a.capacity) }
      draft.arena := a.fill (bytes.take a.capacity) })
    hzero (Nat.le_trans (Nat.le_of_eq hcapacity) hsized.1)
  simp only [hcapacity] at hcommit
  exact ⟨_, ⟨hcommit, rfl, Arena.prefix_data_fill (Nat.min_le_right ..)⟩, rfl⟩

/-- **Retries follow the policy, and a message is sent at most once.**  A finished draft is offered
to the kernel up to the first outcome that is a success or a failure that is not retried; every call
but the last has failed.  A batch is received with the first outcome that is a batch or a failure
that is not retried, where failures for want of buffer space are always retried and never counted;
there is no result only if there is no such outcome. -/
theorem calls_until_settled (hs : s.Sized) :
    (s.draft.InRange → s.draft.depth = 0 → ∃ k, s.SendsUntil k) ∧
    ∀ t, (clearForReceiving : Run SessionError Session Unit) s = .ok () t →
      (∃ k, s.ReceivesUntil t.draft.arena.capacity k) ∨
        (∀ i, ¬ s.options.retry.SettlesAt s.channel.delivery 0 i) ∧
          receive s = .halted .endless t :=
  ⟨sendsUntil_of_inRange, fun _ => receive_settled hs⟩

/-- A session with a request to send, whose calls fail at first.  Two transient failures are made up
for; those for want of buffer space are taken for transient as well. -/
def interrupted : Session :=
  { asking [] with
    options.retry := { isTransient := fun e => e == .interrupted || e == .noBufferSpace
                       maxRetries := some 2 }
    channel := {
      sendCodes := [4, 105, 0, 4]
      deliveries := [.failed 4, .failed 105, .failed 4, .failed 105, .batch [] none false] } }

/-- Its request is sent by the third call.  While it receives, want of buffer space uses up none of
its retries, and the fifth call finds the channel closed. -/
theorem calls_until_settled_of_interrupted : interrupted.Sized ∧ interrupted.draft.InRange ∧
    interrupted.draft.depth = 0 ∧ interrupted.SendsUntil 2 ∧
    ∃ t, (clearForReceiving : Run SessionError Session Unit) interrupted = .ok () t ∧
      interrupted.ReceivesUntil t.draft.arena.capacity 4 := by
  have hsized : interrupted.Sized := by
    rw [Sized, Draft.Sized, Arena.Sized]
    decide
  have hrange : interrupted.draft.InRange :=
    ⟨by decide, (Outline.intact_header
      { type := MessageType.getLink, flags := 1, portId := 7 }).toNested⟩
  have hdepth : interrupted.draft.depth = 0 := rfl
  obtain ⟨t, hclear⟩ : ∃ t, (clearForReceiving : Run SessionError Session Unit) interrupted
      = .ok () t := ⟨_, rfl⟩
  obtain ⟨hsends, hreceives⟩ := calls_until_settled hsized
  refine ⟨hsized, hrange, hdepth, ?_, t, hclear, ?_⟩
  · obtain ⟨k, hk⟩ := hsends hrange hdepth
    rwa [hk.first.unique (isLeast_of_lt (k := 2) (by decide) (by decide))] at hk
  · obtain ⟨k, hk⟩ | ⟨hnever, -⟩ := hreceives t hclear
    · rwa [hk.first.unique (isLeast_of_lt (k := 4) (by decide) (by decide))] at hk
    · exact absurd (by decide) (hnever 4)

end Session

end Rtnetlink
