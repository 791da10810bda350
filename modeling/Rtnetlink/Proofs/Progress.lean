import Mathlib.Logic.Relation
import Rtnetlink.Proofs.BatchTiling
import Rtnetlink.Proofs.Hearing

/-!
# Waiting for an answer comes to an end

There is no timeout: whoever waits for an answer reads until the answer is over.  Reading goes on in
three loops, over the calls that are retried, over the batches, and over the records of a batch, and
how far it goes on in a batch is decided by numbers that nobody has checked.  Here the kernel is
supposed to fall silent: the receive calls have finitely many outcomes, and from then on they fail
with an error that is not retried.  Then waiting ends, whatever was delivered.  Each receive call
uses up an outcome, and in a batch each record that is read lies behind the one before it.

* `Channel.Stops`: the kernel falls silent;
* `Session.Receiving.hear_of_stops`: how many receive calls are made until something is heard;
* `Answer.Drains`: calling for responses until there is none;
* `Answer.standsAt_of_transGen_scans`: no byte of a batch is read twice;
* `Session.waiting_ends`: both, for all ways to wait for an answer.
-/

namespace Rtnetlink

/-- Whether the call asked for a batch. -/
def Exchange.isReceived : Exchange → Bool
  | .received .. => true
  | .sent .. => false

/-- Once the outcomes to come are used up, every receive call fails with an error that is not
retried, however many calls were. -/
def Channel.Stops (policy : RetryPolicy) (c : Channel) : Prop :=
  ∀ retries, policy.SettlesReceive retries (.failed c.drained)

/-- How many receive calls were made so far. -/
def Session.receives (s : Session) : Nat := s.channel.log.countP Exchange.isReceived

/-! ## Sending makes no receive call -/

/-- A run that made no receive call, and so does not hang in one that is made for ever. -/
structure Outcome.QuietSince {ε α : Type} (s : Session) (outcome : Outcome ε Session α) :
    Prop where
  receives_eq : outcome.state.receives = s.receives
  ends : ∀ t, outcome ≠ .halted .endless t

namespace Outcome

variable {ε α : Type} {s t : Session}

lemma quietSince_ok (value : α) (h : t.receives = s.receives) :
    (ok value t : Outcome ε Session α).QuietSince s where
  receives_eq := h
  ends := by rintro _ ⟨⟩

lemma quietSince_refused (cause : ε) (h : t.receives = s.receives) :
    (refused cause t : Outcome ε Session α).QuietSince s where
  receives_eq := h
  ends := by rintro _ ⟨⟩

end Outcome

namespace Session

variable {ε α β : Type} {s t : Session}

/-- The run makes no receive call. -/
def Quiet (run : Run ε Session α) : Prop := ∀ s, (run s).QuietSince s

lemma Quiet.bind {first : Run ε Session α} {next : α → Run ε Session β} (h : Quiet first)
    (h' : ∀ value, Quiet (next value)) : Quiet (first >>= next) := by
  intro s
  have hfirst := h s
  rw [Run.bind_apply]
  rcases hrun : first s with ⟨value, t⟩ | ⟨cause, t⟩ | ⟨fault, t⟩ <;> rw [hrun] at hfirst
  · have hnext := h' value t
    exact ⟨hnext.receives_eq.trans hfirst.receives_eq, hnext.ends⟩
  · exact Outcome.quietSince_refused cause hfirst.receives_eq
  · refine ⟨hfirst.receives_eq, ?_⟩
    rintro u ⟨⟩
    exact hfirst.ends t rfl

lemma quiet_pure (value : α) : Quiet (pure value : Run ε Session α) :=
  fun _ => Outcome.quietSince_ok value rfl

lemma quiet_refuse (cause : ε) : Quiet (Run.refuse cause : Run ε Session α) :=
  fun _ => Outcome.quietSince_refused cause rfl

lemma quiet_state : Quiet (Run.state : Run ε Session Session) :=
  fun s => Outcome.quietSince_ok s rfl

/-- A run on the storage makes no call at all. -/
lemma quiet_onArena {run : Run ε Arena Unit} (h : ∀ a a', run a ≠ .halted .endless a') :
    Quiet (onDraft (Draft.onArena run)) := by
  intro s
  rw [onDraft, Run.within, Draft.onArena, Run.within]
  rcases hrun : run s.draft.arena with ⟨value, a⟩ | ⟨cause, a⟩ | ⟨fault, a⟩
  · exact Outcome.quietSince_ok value rfl
  · exact Outcome.quietSince_refused cause rfl
  · refine ⟨rfl, ?_⟩
    rintro t ⟨⟩
    exact h _ _ hrun

lemma quiet_stampLength : Quiet (onDraft Draft.stampLength : Run ε Session Unit) := by
  intro s
  refine quiet_onArena (fun a a' h => ?_) s
  rw [Arena.patch] at h
  split at h <;> cases h

lemma quiet_clearForReceiving : Quiet (clearForReceiving : Run ε Session Unit) := by
  refine quiet_state.bind fun s => quiet_onArena fun a a' h => ?_
  cases Arena.eq_tooLarge_of_reset h

/-- All calls of a message are send calls. -/
lemma countP_sendAgainst (policy : RetryPolicy) (message : List UInt8) (codes : List CallCode)
    (retries : Nat) :
    (Channel.sendAgainst policy message codes retries).2.2.countP Exchange.isReceived = 0 := by
  obtain ⟨k, -, hsend⟩ := Channel.sendAgainst_settled policy message codes retries
  rw [hsend, List.countP_map]
  exact List.countP_eq_zero.2 fun i _ => Bool.false_ne_true

lemma quiet_deliver : Quiet deliver := by
  intro s
  have hcalls := countP_sendAgainst s.options.retry s.draft.bytes s.channel.sendCodes 0
  rw [deliver, Channel.send]
  generalize Channel.sendAgainst s.options.retry s.draft.bytes s.channel.sendCodes 0 = sending
    at hcalls
  have hlog : (s.channel.log ++ sending.2.2).countP Exchange.isReceived = s.receives := by
    rw [List.countP_append, hcalls, Nat.add_zero, receives]
  rcases sending with ⟨errno | ⟨⟨⟩⟩, left, calls⟩
  · exact Outcome.quietSince_refused _ hlog
  · exact Outcome.quietSince_ok _ hlog

lemma quiet_transmit : Quiet transmit := by
  refine quiet_state.bind fun s => ?_
  split
  · exact quiet_refuse _
  · refine quiet_stampLength.bind fun _ => quiet_state.bind fun t => ?_
    rcases Header.decode t.draft.bytes with cause | header
    · exact quiet_refuse _
    · exact quiet_deliver.bind fun _ => quiet_pure _

lemma quiet_sendAcked : Quiet sendAcked :=
  quiet_transmit.bind fun _ => quiet_clearForReceiving.bind fun _ =>
    quiet_state.bind fun _ => quiet_pure _

/-! ## Receiving uses up the outcomes to come -/

/-- What is retried, and what the channel ends with, stays the same. -/
lemma steady_stops : Steady fun s => (s.options.retry, s.channel.drained) where
  draft _ _ := rfl
  receive h := by
    simp only [Channel.receive, Option.map_eq_some_iff, Prod.mk.injEq] at h
    obtain ⟨⟨reception, left, calls⟩, -, -, rfl⟩ := h
    rfl

/-- Behind the outcomes to come, every call fails in the same way. -/
lemma delivery_length (c : Channel) : c.delivery c.deliveries.length = .failed c.drained := by
  simp [Channel.delivery, Delivery.row]

lemma countP_received (room count : Nat) (result : Nat → Int) :
    ((List.range count).map fun i => Exchange.received room (result i)).countP
      Exchange.isReceived = count := by
  rw [List.countP_eq_length.2, List.length_map, List.length_range]
  intro call hcall
  obtain ⟨i, -, rfl⟩ := List.mem_map.1 hcall
  rfl

/-- Where the channel stops, a receive call comes back.  A batch uses up as many outcomes as calls
were made for it; without one, the call that failed may be one more. -/
lemma Receiving.receive_of_stops (hs : s.Receiving) (hstops : s.channel.Stops s.options.retry) :
    match s.receive with
    | .ok _ t => t.channel.Stops t.options.retry ∧
      t.receives + t.channel.deliveries.length = s.receives + s.channel.deliveries.length
    | .refused _ t => t.receives ≤ s.receives + (s.channel.deliveries.length + 1)
    | .halted _ _ => False := by
  have hlast : s.options.retry.SettlesAt s.channel.delivery 0 s.channel.deliveries.length := by
    rw [RetryPolicy.SettlesAt, delivery_length]
    exact hstops _
  have hkeeps := steady_stops.receiveBatch s
  obtain ⟨k, hk⟩ | ⟨hnever, -⟩ :=
    receive_settled hs.sized (clearForReceiving_of_reserved hs.reserved)
  · have hle : k ≤ s.channel.deliveries.length := hk.first.2 hlast
    obtain ⟨t, hends, hchannel⟩ := hk.ends
    have hreceives : t.receives = s.receives + (k + 1) := by
      rw [receives, hchannel, List.countP_append, countP_received, receives]
    have hleft : t.channel.deliveries.length = s.channel.deliveries.length - (k + 1) := by
      rw [hchannel, List.length_drop]
    rcases hverdict : (s.channel.delivery k).verdict _ with cause | length <;>
      rw [hverdict] at hends
    · rw [hends]
      dsimp only
      omega
    · -- the last call for a batch does not fail, so it is not the one behind all deliveries
      have hne : k ≠ s.channel.deliveries.length := by
        rintro rfl
        rw [delivery_length] at hverdict
        cases hverdict
      rw [hends.1] at hkeeps ⊢
      obtain ⟨hretry, hdrained⟩ := Prod.mk.inj hkeeps
      refine ⟨?_, by omega⟩
      intro retries
      have hfinal := hstops retries
      rwa [← hretry, ← hdrained] at hfinal
  · exact absurd hlast (hnever _)

/-- Where the channel stops, something is heard after no more calls than there are outcomes, or
nothing is with one call more. -/
lemma Receiving.hear_of_stops (hs : s.Receiving) (hstops : s.channel.Stops s.options.retry)
    (number : UInt32) :
    match s.hear number with
    | .ok records t => records = Batch.heard number t.draft.bytes ∧
      t.receives ≤ s.receives + s.channel.deliveries.length
    | .refused _ t => t.receives ≤ s.receives + (s.channel.deliveries.length + 1)
    | .halted _ _ => False := by
  induction hn : s.channel.deliveries.length using Nat.strongRecOn generalizing s with
  | ind n ih =>
    have hreceived := hs.receive_of_stops hstops
    rw [hear_eq]
    rcases hreceive : s.receive with ⟨length, t⟩ | ⟨cause, t⟩ | ⟨fault, t⟩ <;>
      rw [hreceive] at hreceived
    · obtain ⟨ht, -⟩ := hs.length_data hreceive
      obtain ⟨hstops', hcalls⟩ := hreceived
      rcases hheard : Batch.heard number t.draft.bytes with _ | ⟨r, records⟩
      · have hless := deliveries_length_of_receive hreceive
        have hrest := ih _ (hn ▸ hless) ht hstops' rfl
        simp only [hheard]
        generalize t.hear number = outcome at hrest ⊢
        rcases outcome with ⟨records, u⟩ | ⟨cause, u⟩ | ⟨fault, u⟩
        · exact ⟨hrest.1, by omega⟩
        · dsimp only at hrest ⊢
          omega
        · exact hrest
      · simp only [hheard]
        exact ⟨trivial, by omega⟩
    · exact hn ▸ hreceived
    · exact hreceived

end Session

/-! ## Calling for responses until there is none -/

namespace Answer

variable {a c last rest : Answer} {items : List Item} {bytes : List UInt8}

/-- Calling for the next response, again and again, brings these items and then nothing; each call
comes back. -/
inductive Drains : (a : Answer) → (items : List Item) → (last : Answer) → Prop
  /-- There is no further response. -/
  | ended {a last : Answer} (hnext : a.next = .ok none last) : Drains a [] last
  /-- The call brings a response. -/
  | response {a rest last : Answer} {r : Response} {items : List Item}
    (hnext : a.next = .ok (some r) rest) (hrest : Drains rest items last) :
    Drains a (.ok r :: items) last
  /-- The call brings an error. -/
  | error {a rest last : Answer} {cause : SessionError} {items : List Item}
    (hnext : a.next = .refused cause rest) (hrest : Drains rest items last) :
    Drains a (.error cause :: items) last

/-- Only the next call matters. -/
lemma Drains.of_next (hnext : a.next = c.next) (h : c.Drains items last) :
    a.Drains items last := by
  cases h with
  | ended hc => exact .ended (hnext.trans hc)
  | response hc hrest => exact .response (hnext.trans hc) hrest
  | error hc hrest => exact .error (hnext.trans hc) hrest

lemma drains_of_finished (h : a.finished = true) : a.Drains [] a := by
  refine .ended ?_
  rw [next_eq, step, if_pos h]

/-- A batch in which something is heard is drained up to the first error. -/
lemma drains_of_holds (h : a.Holds bytes)
    (hheard : a.found = true ∨ Batch.heard a.sequence (bytes.drop a.offset) ≠ []) :
    ∃ last, a.Drains (Item.upToError
        ((Batch.heard a.sequence (bytes.drop a.offset)).map Record.item)) last ∧
      last.session = a.session := by
  -- by induction on the records that are left
  induction hrecords : Batch.heard a.sequence (bytes.drop a.offset) generalizing a with
  | nil =>
    obtain ⟨offset, hnext⟩ := next_of_holds h
    rw [hrecords] at hnext hheard
    obtain ⟨hend, hnext⟩ := hnext
    have hfound : a.found = true := by simpa using hheard
    have hover : next { a with offset } = .ok none { a with offset, finished := true } := by
      rw [next_eq, step, if_neg (by simp [h.unfinished]), if_pos hend, if_pos hfound]
    exact ⟨_, .ended (hnext.trans hover), rfl⟩
  | cons r records ih =>
    obtain ⟨offset, hnext⟩ := next_of_holds h
    rw [hrecords] at hnext
    obtain ⟨hrest, hnext⟩ := hnext
    rw [List.map_cons]
    rcases hitem : r.item with cause | response <;> simp only [hitem] at hnext
    · exact ⟨_, .error hnext (drains_of_finished rfl), rfl⟩
    · have hholds : Holds { a with offset, found := true } bytes :=
        ⟨h.data, h.length, h.unfinished⟩
      obtain ⟨last, hdrains, hsession⟩ := ih hholds (.inl rfl) hrest
      exact ⟨last, .response hnext hdrains, hsession⟩

/-- An answer that is waited for is drained: of the batch in which something is heard, or of the
error that keeps it from being received. -/
lemma drains_of_waits (h : a.Waits) (hsession : a.session.Receiving) :
    match a.session.hear a.sequence with
    | .ok records t =>
      ∃ last, a.Drains (Item.upToError (records.map Record.item)) last ∧ last.session = t
    | .refused cause t => ∃ last, a.Drains [.error cause] last ∧ last.session = t
    | .halted _ _ => True := by
  have hnext := next_of_waits h hsession
  generalize a.session.hear a.sequence = heard at hnext ⊢
  rcases heard with ⟨records, t⟩ | ⟨cause, t⟩ | ⟨fault, t⟩
  · obtain ⟨c, hnext, hholds, rfl, rfl, hheard⟩ := hnext
    obtain ⟨last, hdrains, hlast⟩ := drains_of_holds hholds (.inr hheard)
    exact ⟨last, hdrains.of_next hnext, hlast⟩
  · obtain ⟨rest, hnext, rfl, hfinished⟩ := hnext
    exact ⟨rest, .error hnext (drains_of_finished hfinished), rfl⟩
  · trivial

end Answer

/-! ## In a batch each record lies behind the one before it -/

namespace Batch

variable {bytes : List UInt8} {place : Nat} {records : List Record}

/-- Each record takes up the bytes of its header. -/
lemma length_le_of_tiled (h : Tiled bytes place records) :
    16 * records.length ≤ bytes.length - place := by
  induction h with
  | ends => exact Nat.zero_le _
  | @record place r records hstands hrest ih =>
    have hcovers := hstands.covers
    have hinside := hstands.inside
    have haligned := le_align r.header.length.toNat
    rw [List.length_cons]
    omega

lemma length_heard_le (number : UInt32) (bytes : List UInt8) :
    16 * (heard number bytes).length ≤ bytes.length := by
  have htiled := length_le_of_tiled (tiled_toList bytes 0)
  rw [List.drop_zero, Nat.sub_zero] at htiled
  have hheard : (heard number bytes).length ≤ (toList { bytes }).length :=
    (List.length_filter_le ..).trans (List.takeWhile_sublist _).length_le
  omega

end Batch

lemma Item.length_upToError_le (items : List Item) : (upToError items).length ≤ items.length := by
  induction items with
  | nil => exact Nat.le_refl _
  | cons item items ih => cases item <;> simp [upToError, ih]

namespace Answer

variable {a c : Answer}

/-- The batch that is being read. -/
def batch (a : Answer) : List UInt8 := a.session.draft.arena.data.take a.length

/-- Bytes are left of the batch that is being read. -/
structure Scanning (a : Answer) : Prop where
  unfinished : a.finished = false
  inside : a.offset < a.length

/-- One step of reading inside a batch. -/
structure Scans (a c : Answer) : Prop where
  scanning : a.Scanning
  rest_eq : a.step.rest = c
  goesOn : ∀ fault, a.step ≠ .halt fault c

/-- A step inside a batch stays in it.  If bytes are left behind the step, it has read a record and
gone on to the place behind it. -/
lemma Scans.standsAt (h : a.Scans c) : c.batch = a.batch ∧ (c.Scanning →
    ∃ r : Record, r.StandsAt a.batch a.offset ∧ c.offset = a.offset + r.alignedLength) := by
  obtain ⟨⟨hopen, hinside⟩, rfl, hgoesOn⟩ := h
  have hstep : a.step = a.scan := by
    rw [step, if_neg (by simp [hopen]), if_neg (Nat.not_le.2 hinside)]
  rw [hstep, scan] at hgoesOn ⊢
  split
  · next hshort =>
    rw [if_pos hshort] at hgoesOn
    exact absurd rfl (hgoesOn _)
  have hended : ¬ Scanning { a with offset := a.length } := fun h => Nat.lt_irrefl _ h.inside
  rcases hdecode : Record.decode ((a.session.draft.arena.data.take a.length).drop a.offset)
    with cause | r
  · exact ⟨rfl, fun h => absurd h hended⟩
  have hstands : r.StandsAt a.batch a.offset := Record.decode_drop_eq_ok_iff.1 hdecode
  dsimp only
  split
  · exact ⟨rfl, fun h => absurd h hended⟩
  · split
    · exact ⟨rfl, fun _ => ⟨r, hstands, rfl⟩⟩
    · rw [judge_eq]
      rcases r.item with cause | response
      · exact ⟨rfl, fun h => absurd h.unfinished (Bool.noConfusion ·)⟩
      · exact ⟨rfl, fun _ => ⟨r, hstands, rfl⟩⟩

/-- However many steps are made inside a batch, what is read then lies behind what was read first.
-/
lemma standsAt_of_transGen_scans (h : Relation.TransGen Scans a c) : c.batch = a.batch ∧
    (c.Scanning → ∃ r : Record, r.StandsAt a.batch a.offset ∧
      a.offset + r.alignedLength ≤ c.offset) := by
  induction h with
  | single hstep =>
    obtain ⟨hbatch, hstands⟩ := hstep.standsAt
    refine ⟨hbatch, fun hc => ?_⟩
    obtain ⟨r, hr, hoffset⟩ := hstands hc
    exact ⟨r, hr, Nat.le_of_eq hoffset.symm⟩
  | tail _ hstep ih =>
    obtain ⟨hbatch, hstands⟩ := hstep.standsAt
    obtain ⟨r, hr, hle⟩ := ih.2 hstep.scanning
    refine ⟨hbatch.trans ih.1, fun hc => ⟨r, hr, ?_⟩⟩
    obtain ⟨r', -, hoffset⟩ := hstands hc
    omega

end Answer

/-! ## Waiting ends -/

namespace Session

variable {s t : Session} {a : Answer}

/-- A call that sends a message and waits for its answer comes to an end. -/
structure ComesToEnd (s : Session) (outcome : Outcome SessionError Session Unit) : Prop where
  /-- It makes one receive call for each outcome to come, and one more at most. -/
  receives_le : outcome.state.receives ≤ s.receives + (s.channel.deliveries.length + 1)
  /-- It halts only where sending the message does, and not in a call that is made for ever. -/
  halts : ∀ fault t, outcome = .halted fault t → sendAcked s = .halted fault t ∧ fault ≠ .endless

/-- Only a halt has to be explained. -/
lemma comesToEnd_ok (h : t.receives ≤ s.receives + (s.channel.deliveries.length + 1)) :
    s.ComesToEnd (.ok () t) where
  receives_le := h
  halts := by rintro _ _ ⟨⟩

lemma comesToEnd_refused {cause : SessionError}
    (h : t.receives ≤ s.receives + (s.channel.deliveries.length + 1)) :
    s.ComesToEnd (.refused cause t) where
  receives_le := h
  halts := by rintro _ _ ⟨⟩

/-- What is heard once a message was sent, and after how many receive calls. -/
lemma hear_of_sendAcked (hs : s.Sized) (hstops : s.channel.Stops s.options.retry)
    (h : sendAcked s = .ok a t) :
    match t.hear a.sequence with
    | .ok records u => records = Batch.heard a.sequence u.draft.bytes ∧
      u.receives ≤ s.receives + s.channel.deliveries.length
    | .refused _ u => u.receives ≤ s.receives + (s.channel.deliveries.length + 1)
    | .halted _ _ => False := by
  have hquiet := quiet_sendAcked s
  have hreceiving := (inRange_of_sendAcked hs h).receiving
  obtain ⟨ha, -, -, hoptions, hdeliveries, hdrained⟩ := sendAcked_eq_ok h
  have hsession : a.session = t := by rw [ha]
  have hreceives : t.receives = s.receives := by
    rw [h] at hquiet
    exact hquiet.receives_eq
  have hstops' : t.channel.Stops t.options.retry := by
    intro retries
    rw [hoptions, hdrained]
    exact hstops retries
  have hhear := (hsession ▸ hreceiving).hear_of_stops hstops' a.sequence
  rwa [hreceives, hdeliveries] at hhear

/-- Sending with a handler comes to an end, whatever the handler does. -/
lemma sendWith_comesToEnd {β : Type} (handler : β → Response → β × Option String) (b : β)
    (hs : s.Sized) (hstops : s.channel.Stops s.options.retry) :
    s.ComesToEnd ((sendWith handler (s, b)).mapState Prod.fst) := by
  have hquiet := quiet_sendAcked s
  rcases hacked : sendAcked s with ⟨a, t⟩ | ⟨cause, t⟩ | ⟨fault, t⟩
  · have hhear := hear_of_sendAcked hs hstops hacked
    rw [sendWith_of_hear hs hacked]
    generalize t.hear a.sequence = heard at hhear ⊢
    rcases heard with ⟨records, u⟩ | ⟨cause, u⟩ | ⟨fault, u⟩
    · dsimp only
      rcases Answer.judgeAll handler b records with ⟨b', _ | cause⟩
      · exact comesToEnd_ok (Nat.le_succ_of_le hhear.2)
      · exact comesToEnd_refused (Nat.le_succ_of_le hhear.2)
    · exact comesToEnd_refused hhear
    · exact absurd hhear id
  · rw [hacked] at hquiet
    simp only [sendWith, hacked]
    exact comesToEnd_refused
      (Nat.le_trans (Nat.le_of_eq hquiet.receives_eq) (Nat.le_add_right ..))
  · rw [hacked] at hquiet
    simp only [sendWith, hacked]
    refine ⟨Nat.le_trans (Nat.le_of_eq hquiet.receives_eq) (Nat.le_add_right ..), ?_⟩
    rintro fault' t' ⟨⟩
    refine ⟨hacked, ?_⟩
    rintro rfl
    exact hquiet.ends t rfl

/-- **Waiting for an answer makes progress.**  The kernel may deliver anything, as long as it falls
silent in the end.  Then the answer to a message that was sent is drained by finitely many calls for
a response, and sending with a handler, or without one, comes to an end as well.  No more receive
calls are made than there are outcomes, and one.  The batch in which something is heard has sixteen
bytes for each item; if nothing is heard in any batch, the only item is the error that ends it.
Inside a batch, whatever it holds and however it came there, no place is read twice: a record that
is read lies behind all that were read before it. -/
theorem waiting_ends (hs : s.Sized) (hstops : s.channel.Stops s.options.retry) :
    (∀ a t, sendAcked s = .ok a t → ∃ items last, a.Drains items last ∧
      last.session.receives ≤ s.receives + (s.channel.deliveries.length + 1) ∧
      match t.hear a.sequence with
      | .ok _ u => last.session = u ∧ 16 * items.length ≤ u.draft.bytes.length
      | .refused cause u => last.session = u ∧ items = [.error cause]
      | .halted _ _ => False) ∧
    (∀ {β : Type} (handler : β → Response → β × Option String) (b : β),
      s.ComesToEnd ((sendWith handler (s, b)).mapState Prod.fst)) ∧
    s.ComesToEnd (sendAndWait s) ∧
    ∀ a c : Answer, Relation.TransGen Answer.Scans a c → c.Scanning → c.batch = a.batch ∧
      ∃ r : Record, r.StandsAt a.batch a.offset ∧ a.offset + r.alignedLength ≤ c.offset := by
  refine ⟨fun a t h => ?_, fun handler b => sendWith_comesToEnd handler b hs hstops, ?_,
    fun a c h hc => ?_⟩
  · have hhear := hear_of_sendAcked hs hstops h
    have hdrains := Answer.drains_of_waits (Answer.waits_of_sendAcked h)
      (inRange_of_sendAcked hs h).receiving
    have hsession : a.session = t := by rw [(sendAcked_eq_ok h).1]
    rw [hsession] at hdrains
    generalize t.hear a.sequence = heard at hhear hdrains ⊢
    rcases heard with ⟨records, u⟩ | ⟨cause, u⟩ | ⟨fault, u⟩
    · obtain ⟨rfl, hcalls⟩ := hhear
      obtain ⟨last, hdrains, rfl⟩ := hdrains
      have hitems := Item.length_upToError_le
        ((Batch.heard a.sequence last.session.draft.bytes).map Record.item)
      have hbatch := Batch.length_heard_le a.sequence last.session.draft.bytes
      rw [List.length_map] at hitems
      exact ⟨_, last, hdrains, Nat.le_succ_of_le hcalls, rfl, by omega⟩
    · obtain ⟨last, hdrains, rfl⟩ := hdrains
      exact ⟨_, last, hdrains, hhear, rfl, rfl⟩
    · exact absurd hhear id
  · rw [sendAndWait_eq]
    exact sendWith_comesToEnd _ () hs hstops
  · obtain ⟨hbatch, hstands⟩ := Answer.standsAt_of_transGen_scans h
    exact ⟨hbatch, hstands hc⟩

/-- Malformed batches: lengths of zero, of less than a header and of four gigabytes, and a record
without its padding. -/
def malformedBatches : List (List UInt8) := [
  Header.encode { length := 0 },
  Header.encode { length := 5 },
  Header.encode { length := 0xFFFFFFFF },
  Header.encode { length := 17, sequence := 9 } ++ [1]]

/-- Each of them is received by at most one call, and a fifth call fails. -/
theorem waiting_ends_of_malformed :
    let s := asking malformedBatches
    s.Sized ∧ s.channel.Stops s.options.retry ∧
      (∃ a t items last, sendAcked s = .ok a t ∧ a.Drains items last ∧
        last.session.receives ≤ 5) ∧
      (sendAndWait s).state.receives ≤ 5 := by
  intro s
  have hsized : s.Sized := by
    rw [Sized, Draft.Sized, Arena.Sized]
    decide
  have hstops : s.channel.Stops s.options.retry := fun _ => ⟨by decide, rfl⟩
  obtain ⟨hdrains, -, hwait, -⟩ := waiting_ends hsized hstops
  obtain ⟨a, t, hsent, -⟩ := sendAcked_asking malformedBatches
  obtain ⟨items, last, hitems, hreceives, -⟩ := hdrains a t hsent
  exact ⟨hsized, hstops, ⟨a, t, items, last, hsent, hitems, hreceives⟩, hwait.receives_le⟩

end Session

end Rtnetlink
