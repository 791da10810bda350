import Rtnetlink.Proofs.Room
import Rtnetlink.Session.Answer

/-!
# Receiving batches into the arena

A session reads every batch into the arena that staged its request.  The receive buffer is reserved
once when the request has been sent and once more in front of every batch; from the second time on
reserving moves no byte, so the storage that is offered to the kernel stays the same while an answer
is read.

* `Session.sendAcked_eq_ok`: what is left to read once a request has been sent, and under which
  number its answer is awaited;
* `Session.receive_of_batch`: a batch that arrives whole is the committed part of the arena;
* `Session.receive_of_failed`, `Session.receive_of_endless`: the other ends of a receive call.
-/

namespace Rtnetlink

namespace Arena

variable {ε : Type}

@[simp] lemma length_resized (bytes : List UInt8) (length : Nat) :
    (resized bytes length).length = length := by
  simp only [resized, List.length_append, List.length_take, List.length_replicate]
  omega

lemma resized_length (bytes : List UInt8) : resized bytes bytes.length = bytes := by
  simp [resized]

@[simp] lemma capacity_fill (a : Arena) (bytes : List UInt8) :
    (a.fill bytes).capacity = a.capacity := by
  have hfits : 0 + (bytes.take a.capacity).length ≤ a.storage.length := by
    simp only [capacity, List.length_take]
    omega
  simp only [capacity, fill]
  exact length_overlay hfits

/-- Starting over a second time, with the storage as large as the first time left it, only gives up
the committed part. -/
lemma reset_again {a a' b : Arena} {amount : Nat}
    (h : (reset amount : Run ε Arena Unit) a = .ok () a') (hb : b.capacity = a'.capacity) :
    (reset amount : Run ε Arena Unit) b = .ok () { b with committed := 0 } := by
  rw [reset, Run.bind_of_ok (Run.modify_apply _ _)] at h ⊢
  simp only [reserve, capacity, Nat.zero_add] at h hb ⊢
  by_cases hroom : Size.wrap amount ≤ a.storage.length
  · -- the storage was large enough, and still is
    rw [if_pos hroom] at h
    cases h
    rw [if_pos (hb ▸ hroom)]
  · rw [if_neg hroom] at h
    by_cases hgreat : Size.greatest < Size.wrap (Size.wrap amount * 2)
    · rw [if_pos hgreat] at h
      cases h
    · -- the storage was resized; it either fits now or would be resized to the length it has
      rw [if_neg hgreat] at h
      cases h
      simp only [length_resized] at hb
      rw [if_neg hgreat, ← hb, resized_length]
      split <;> rfl

/-- A batch written to the start of storage that has room for it, and committed, is what the arena
holds. -/
lemma commit_fill {a : Arena} {bytes : List UInt8} (hzero : a.committed = 0)
    (hfits : bytes.length ≤ a.capacity) (hsmall : bytes.length ≤ Size.greatest) :
    ∃ a', (commit bytes.length : Run ε Arena Unit) (a.fill bytes) = .ok () a' ∧ a'.data = bytes ∧
      a'.capacity = a.capacity := by
  have hwrap : Size.wrap (0 + bytes.length) = bytes.length := by
    rw [Nat.zero_add]
    exact Size.wrap_of_le_greatest hsmall
  have hcommitted : (a.fill bytes).committed = 0 := hzero
  refine ⟨{ a.fill bytes with committed := bytes.length }, ?_, ?_, capacity_fill a bytes⟩
  · simp only [commit, hcommitted, hwrap, capacity_fill, if_pos hfits]
  · simp only [data, fill, overlay, List.take_of_length_le hfits, List.take_zero,
      List.nil_append]
    exact List.take_left

end Arena

namespace Session

/-! ## The request is sent, the answer is not read yet -/

/-- The receive buffer is reserved: reserving it once more moves no byte. -/
def Reserved (s : Session) : Prop :=
  (Arena.reset s.options.receiveBufferSize : Run SessionError Arena Unit) s.draft.arena
    = .ok () { s.draft.arena with committed := 0 }

/-- How long a batch may be that the session receives whole: within its receive buffer, and within
the storage that the batch is read into.  No storage is longer than `Size.greatest`. -/
def batchRoom (s : Session) : Nat :=
  min s.options.receiveBufferSize (min s.draft.arena.capacity Size.greatest)

/-- The receive buffer is what bounds a batch, as long as storage can be that large. -/
lemma batchRoom_of_reserved {s : Session} (hs : s.Reserved)
    (hsize : s.options.receiveBufferSize ≤ Size.greatest) :
    s.batchRoom = s.options.receiveBufferSize := by
  rw [Reserved, Arena.reset, Run.bind_of_ok (Run.modify_apply _ _)] at hs
  simp only [Arena.reserve, Nat.zero_add, Size.wrap_of_le_greatest hsize] at hs
  have hroom : s.options.receiveBufferSize ≤ s.draft.arena.capacity := by
    split at hs
    · assumption
    · split at hs
      · cases hs
      · -- growing to twice the buffer would have changed the storage
        have hdouble : Size.wrap (s.options.receiveBufferSize * 2)
            = s.options.receiveBufferSize * 2 := by
          apply Size.wrap_of_lt
          simp only [Size.greatest, Size.count] at hsize ⊢
          omega
        injection hs with _ hs
        have hlength := congrArg Arena.capacity hs
        simp only [Arena.capacity, Arena.length_resized, hdouble] at hlength ⊢
        omega
  simp only [batchRoom]
  omega

lemma onDraft_eq_ok {ε α : Type} {run : Run ε Draft α} {s s' : Session} {value : α} :
    onDraft run s = .ok value s' ↔ ∃ d, run s.draft = .ok value d ∧ { s with draft := d } = s' :=
  Run.within_eq_ok

/-- Filling in the length keeps what stands behind the length field. -/
lemma drop_of_stampLength {ε : Type} {d d' : Draft}
    (h : (Draft.stampLength : Run ε Draft Unit) d = .ok () d') {place : Nat} (hplace : 4 ≤ place) :
    d'.bytes.drop place = d.bytes.drop place := by
  rw [Draft.stampLength, Run.bind_of_ok (Run.state_apply d)] at h
  obtain ⟨arena, hpatch, rfl⟩ := Draft.onArena_eq_ok.1 h
  rw [Draft.bytes, Arena.data_of_patch hpatch, overlay, List.take_zero, List.nil_append,
    LittleEndian.length_ofU32, Nat.zero_add, List.drop_append, LittleEndian.length_ofU32,
    List.drop_eq_nil_of_le (by simpa using hplace), List.nil_append, List.drop_drop]
  congr 1
  omega

/-- Giving the draft to the kernel changes nothing but the outcomes of sending and the log. -/
lemma deliver_eq_ok {s s' : Session} (h : deliver s = .ok () s') :
    ∃ codes log, s' = { s with channel := { s.channel with sendCodes := codes, log } } := by
  simp only [deliver, Channel.send] at h
  split at h
  · rename_i channel hsend
    injection hsend with _ hchannel
    cases h
    exact ⟨_, _, by rw [← hchannel]⟩
  · cases h

/-- The number of a request that is sent is the one in its draft, and only the draft and the channel
change. -/
lemma transmit_eq_ok {s s' : Session} {number : UInt32} (h : transmit s = .ok number s') :
    (Draft.sequence : Run SessionError Draft UInt32) s.draft = .ok number s.draft ∧
      ∃ draft codes log,
        s' = { s with draft, channel := { s.channel with sendCodes := codes, log } } := by
  rw [transmit, Run.bind_of_ok (Run.state_apply s)] at h
  split at h
  · cases h
  · obtain ⟨⟨⟩, t, hstamp, h⟩ := Run.bind_eq_ok.1 h
    obtain ⟨d, hlength, rfl⟩ := onDraft_eq_ok.1 hstamp
    rw [Run.bind_of_ok (Run.state_apply _)] at h
    rcases hheader : Header.decode d.bytes with cause | header <;> simp only [hheader] at h
    · cases h
    · obtain ⟨⟨⟩, u, hdeliver, h⟩ := Run.bind_eq_ok.1 h
      cases h
      obtain ⟨codes, log, rfl⟩ := deliver_eq_ok hdeliver
      refine ⟨?_, d, codes, log, rfl⟩
      unfold Header.decode at hheader
      split at hheader
      · cases hheader
      · -- the number was in the draft before its length was
        rename_i hsize
        cases hheader
        have hnumber := drop_of_stampLength hlength (by omega : 4 ≤ 8)
        have hrest := congrArg List.length (drop_of_stampLength hlength (by omega : 4 ≤ 12))
        simp only [List.length_drop, Header.size] at hrest hsize
        rw [Draft.sequence, Run.read?_eq_ok, if_neg (by omega), hnumber]
        exact ⟨rfl, rfl⟩

/-- Once a request has been sent, the answer to its number can be read: nothing of it has been, the
receive buffer is reserved, and what the kernel will deliver is as it was. -/
lemma sendAcked_eq_ok {s s' : Session} {a : Answer} (h : sendAcked s = .ok a s') :
    a = { session := s', sequence := a.sequence } ∧
      (Draft.sequence : Run SessionError Draft UInt32) s.draft = .ok a.sequence s.draft ∧
      s'.Reserved ∧ s'.options = s.options ∧ s'.channel.deliveries = s.channel.deliveries ∧
      s'.channel.drained = s.channel.drained := by
  rw [sendAcked] at h
  obtain ⟨number, t, htransmit, h⟩ := Run.bind_eq_ok.1 h
  obtain ⟨hnumber, draft, codes, log, rfl⟩ := transmit_eq_ok htransmit
  obtain ⟨⟨⟩, u, hclear, h⟩ := Run.bind_eq_ok.1 h
  rw [Run.bind_of_ok (Run.state_apply u)] at h
  cases h
  rw [clearForReceiving, Run.bind_of_ok (Run.state_apply _)] at hclear
  obtain ⟨d, hd, rfl⟩ := onDraft_eq_ok.1 hclear
  obtain ⟨arena, hreset, rfl⟩ := Draft.onArena_eq_ok.1 hd
  exact ⟨rfl, hnumber, Arena.reset_again hreset rfl, rfl, rfl, rfl⟩

/-- The same session, with other outcomes of receiving to come. -/
def delivering (s : Session) (deliveries : List Delivery) : Session :=
  { s with channel.deliveries := deliveries }

@[simp] lemma delivering_draft (s : Session) (deliveries : List Delivery) :
    (s.delivering deliveries).draft = s.draft := rfl

lemma deliver_delivering {s s' : Session} (deliveries : List Delivery)
    (h : deliver s = .ok () s') :
    deliver (s.delivering deliveries) = .ok () (s'.delivering deliveries) := by
  simp only [deliver, Channel.send] at h ⊢
  split at h
  · rename_i channel hsend
    injection hsend with hverdict hchannel
    cases h
    subst hchannel
    simp only [delivering, hverdict]
  · cases h

/-- What will be received plays no part in sending. -/
lemma sendAcked_delivering {s s' : Session} {a : Answer} (deliveries : List Delivery)
    (h : sendAcked s = .ok a s') :
    sendAcked (s.delivering deliveries)
      = .ok { a with session := a.session.delivering deliveries } (s'.delivering deliveries) := by
  rw [sendAcked] at h ⊢
  obtain ⟨number, t, htransmit, h⟩ := Run.bind_eq_ok.1 h
  obtain ⟨⟨⟩, u, hclear, h⟩ := Run.bind_eq_ok.1 h
  have htransmit' : transmit (s.delivering deliveries) = .ok number (t.delivering deliveries) := by
    rw [transmit, Run.bind_of_ok (Run.state_apply _)] at htransmit ⊢
    rcases Nat.eq_zero_or_pos s.draft.depth with hdepth | hdepth
    · rw [if_neg (by omega)] at htransmit
      rw [if_neg (by rw [delivering_draft]; omega)]
      obtain ⟨⟨⟩, v, hstamp, htransmit⟩ := Run.bind_eq_ok.1 htransmit
      obtain ⟨d, hlength, rfl⟩ := onDraft_eq_ok.1 hstamp
      have hstamp' : (onDraft Draft.stampLength : Run SessionError Session Unit)
          (s.delivering deliveries) = .ok () { s.delivering deliveries with draft := d } :=
        onDraft_eq_ok.2 ⟨d, hlength, rfl⟩
      rw [Run.bind_of_ok hstamp', Run.bind_of_ok (Run.state_apply _)]
      rw [Run.bind_of_ok (Run.state_apply _)] at htransmit
      rcases hheader : Header.decode d.bytes with cause | header <;>
        simp only [hheader] at htransmit ⊢
      · cases htransmit
      · obtain ⟨⟨⟩, w, hdeliver, htransmit⟩ := Run.bind_eq_ok.1 htransmit
        cases htransmit
        have hdeliver' := deliver_delivering deliveries hdeliver
        exact Run.bind_of_ok hdeliver' _
    · rw [if_pos hdepth] at htransmit
      cases htransmit
  have hclear' : (clearForReceiving : Run SessionError Session Unit) (t.delivering deliveries)
      = .ok () (u.delivering deliveries) := by
    rw [clearForReceiving, Run.bind_of_ok (Run.state_apply _)] at hclear ⊢
    obtain ⟨d, hd, rfl⟩ := onDraft_eq_ok.1 hclear
    exact onDraft_eq_ok.2 ⟨d, hd, rfl⟩
  rw [Run.bind_of_ok htransmit', Run.bind_of_ok hclear', Run.bind_of_ok (Run.state_apply _)]
  rw [Run.bind_of_ok (Run.state_apply _)] at h
  cases h
  rfl

/-! ## One receive call -/

lemma clearForReceiving_of_reserved {s : Session} (hs : s.Reserved) :
    (clearForReceiving : Run SessionError Session Unit) s
      = .ok () { s with draft.arena.committed := 0 } := by
  rw [clearForReceiving, Run.bind_of_ok (Run.state_apply s)]
  exact onDraft_eq_ok.2 ⟨_, Draft.onArena_eq_ok.2 ⟨_, hs, rfl⟩, rfl⟩

variable {s : Session} {c : Channel}

/-- A batch that arrives whole becomes the committed part of the arena; the room for the next one
stays what it was. -/
lemma receive_of_batch {bytes : List UInt8} (hs : s.Reserved)
    (h : s.channel.receive s.options.retry s.draft.arena.capacity
      = some (.batch bytes bytes.length true, c))
    (hbytes : bytes ≠ []) (hroom : bytes.length ≤ s.batchRoom) :
    ∃ s', s.receive = .ok bytes.length s' ∧ s'.draft.arena.data = bytes ∧ s'.Reserved ∧
      s'.batchRoom = s.batchRoom ∧ s'.channel = c ∧ s'.options = s.options := by
  have hfits : bytes.length ≤ s.draft.arena.capacity := by
    simp only [batchRoom] at hroom
    omega
  have hsmall : bytes.length ≤ Size.greatest := by
    simp only [batchRoom] at hroom
    omega
  have hpos : bytes.length ≠ 0 := by
    simpa using hbytes
  obtain ⟨arena, hcommit, hdata, hcapacity⟩ :=
    Arena.commit_fill (ε := SessionError) (a := { s.draft.arena with committed := 0 }) rfl hfits
      hsmall
  have hcapacity : arena.capacity = s.draft.arena.capacity := hcapacity
  refine ⟨{ s with channel := c, draft.arena := arena }, ?_, hdata,
    Arena.reset_again hs hcapacity, ?_, rfl, rfl⟩
  · have hfetch : fetch { s with draft.arena.committed := 0 } = .ok (bytes.length, true)
        { s with
          channel := c
          draft.arena := Arena.fill { s.draft.arena with committed := 0 } bytes } := by
      have hcall : s.channel.receive s.options.retry
          (Arena.capacity { s.draft.arena with committed := 0 }) = _ := h
      simp only [fetch, hcall]
    have hlength : min bytes.length
        (Arena.fill { s.draft.arena with committed := 0 } bytes).capacity = bytes.length := by
      rw [Arena.capacity_fill]
      exact Nat.min_eq_left hfits
    rw [receive, Run.bind_of_ok (clearForReceiving_of_reserved hs), Run.bind_of_ok hfetch]
    dsimp only
    rw [if_neg hpos, if_neg (by simp), Run.bind_of_ok (Run.state_apply _)]
    dsimp only
    rw [hlength, Run.bind_of_ok (onDraft_eq_ok.2 ⟨_, Draft.onArena_eq_ok.2 ⟨_, hcommit, rfl⟩, rfl⟩)]
    rfl
  · simp only [batchRoom, hcapacity]

lemma receive_of_failed {errno : Errno} (hs : s.Reserved)
    (h : s.channel.receive s.options.retry s.draft.arena.capacity = some (.failed errno, c)) :
    ∃ s', s.receive = .refused (.io errno) s' ∧ s'.channel = c := by
  refine ⟨{ s with channel := c, draft.arena.committed := 0 }, ?_, rfl⟩
  have hcall : s.channel.receive s.options.retry
      (Arena.capacity { s.draft.arena with committed := 0 }) = _ := h
  have hfetch : fetch { s with draft.arena.committed := 0 } = .refused (.io errno)
      { s with channel := c, draft.arena.committed := 0 } := by
    simp only [fetch, hcall]
  rw [receive, Run.bind_of_ok (clearForReceiving_of_reserved hs), Run.bind_of_refused hfetch]

lemma receive_of_endless (hs : s.Reserved)
    (h : s.channel.receive s.options.retry s.draft.arena.capacity = none) :
    ∃ s', s.receive = .halted .endless s' := by
  refine ⟨{ s with draft.arena.committed := 0 }, ?_⟩
  have hcall : s.channel.receive s.options.retry
      (Arena.capacity { s.draft.arena with committed := 0 }) = none := h
  have hfetch : fetch { s with draft.arena.committed := 0 } = .halted .endless
      { s with draft.arena.committed := 0 } := by
    simp only [fetch, hcall]
  rw [receive, Run.bind_of_ok (clearForReceiving_of_reserved hs), Run.bind_of_halted hfetch]

end Session

end Rtnetlink
