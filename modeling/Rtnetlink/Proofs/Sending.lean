import Rtnetlink.Proofs.Layout
import Rtnetlink.Proofs.Receiving

/-!
# What a session sends

A message is begun in the storage that earlier messages and batches have used, composed there, and
given to the kernel with its length filled in.  The kernel is offered the same bytes as often as the
call is retried, and nothing else is offered to it while the answer is read.

* `Session.begin_laid`: beginning a message lays its header, wherever there is room for it;
* `Session.transmit_laid`: what is offered to the kernel is the header with the length, and the rest
  of the message as it was laid;
* `Session.Steady.submits`: reading an answer leaves alone what neither composing nor receiving
  changes; it offers nothing to the kernel;
* `Session.sent_of_staged`: whichever way a draft is sent, its bytes are offered with the length
  filled in;
* `Session.refusesToSend_of_transmit`: what is not given to the kernel is not sent in any way;
* `Session.refusesOpen_of_depth_pos`: a draft with an open attribute is not sent.
-/

namespace Rtnetlink

open LittleEndian

/-- The message of a send call. -/
def Exchange.message? : Exchange → Option (List UInt8)
  | .sent message _ => some message
  | .received .. => none

/-- How many calls are made to send a message, after `retries` retries. -/
def RetryPolicy.attempts (p : RetryPolicy) : (codes : List CallCode) → (retries : Nat) → Nat
  | [], _ => 1
  | code :: rest, retries =>
    if code = 0 then 1
    else if p.shouldRetry (.ofNumber code) retries then attempts p rest (retries + 1) + 1
    else 1

lemma RetryPolicy.attempts_pos (p : RetryPolicy) (codes : List CallCode) (retries : Nat) :
    0 < p.attempts codes retries := by
  cases codes with
  | nil => exact Nat.one_pos
  | cons code rest =>
    rw [attempts]
    split
    · exact Nat.one_pos
    · split
      · exact Nat.succ_pos _
      · exact Nat.one_pos

/-- Each call offers the whole message. -/
lemma Channel.messages_of_sendAgainst (policy : RetryPolicy) (message : List UInt8)
    (codes : List CallCode) (retries : Nat) :
    (sendAgainst policy message codes retries).2.2.filterMap Exchange.message?
      = List.replicate (policy.attempts codes retries) message := by
  induction codes generalizing retries with
  | nil => rfl
  | cons code rest ih =>
    rw [sendAgainst, RetryPolicy.attempts]
    split
    · rfl
    · split
      · rw [List.replicate_succ, ← ih]
        rfl
      · rfl

/-- While receiving, nothing is offered to the kernel. -/
lemma Channel.messages_of_receiveAgainst {policy : RetryPolicy} {room : Nat} {drained : Int}
    {deliveries left : List Delivery} {retries : Nat} {reception : Reception}
    {calls : List Exchange}
    (h : receiveAgainst policy room drained deliveries retries = some (reception, left, calls)) :
    calls.filterMap Exchange.message? = [] := by
  induction deliveries generalizing retries reception left calls with
  | nil =>
    simp only [receiveAgainst, receiveDrained] at h
    split at h
    · cases h
    · split at h
      · simp only [Option.map_eq_some_iff, Prod.mk.injEq] at h
        obtain ⟨_, ⟨_, -, rfl⟩, -, -, rfl⟩ := h
        simp [Exchange.message?]
      · cases h
        rfl
  | cons delivery rest ih =>
    cases delivery with
    | batch =>
      cases h
      rfl
    | failed number =>
      -- a call that is repeated comes in front of the others
      have hagain : ∀ {retries} {add : Reception × List Delivery × List Exchange →
            Reception × List Delivery × List Exchange},
          (∀ r, (add r).2.2.filterMap Exchange.message? = r.2.2.filterMap Exchange.message?) →
          (receiveAgainst policy room drained rest retries).map add
            = some (reception, left, calls) → calls.filterMap Exchange.message? = [] := by
        intro retries add hadd h
        obtain ⟨r, hrest, hr⟩ := Option.map_eq_some_iff.1 h
        have hcalls := hadd r
        rw [hr] at hcalls
        exact hcalls.trans (ih hrest)
      simp only [receiveAgainst] at h
      split at h
      · refine hagain ?_ h
        rintro ⟨_, _, _⟩
        rfl
      · split at h
        · refine hagain ?_ h
          rintro ⟨_, _, _⟩
          rfl
        · cases h
          rfl

lemma Channel.messages_of_receive {policy : RetryPolicy} {room : Nat} {c c' : Channel}
    {reception : Reception} (h : c.receive policy room = some (reception, c')) :
    c'.log.filterMap Exchange.message? = c.log.filterMap Exchange.message? := by
  simp only [receive, Option.map_eq_some_iff, Prod.mk.injEq] at h
  obtain ⟨⟨_, left, calls⟩, hreceive, -, rfl⟩ := h
  rw [List.filterMap_append, messages_of_receiveAgainst hreceive, List.append_nil]

namespace Session

/-! ## Beginning a message -/

/-- The messages that were offered to the kernel so far, once for each call. -/
def sent (s : Session) : List (List UInt8) := s.channel.log.filterMap Exchange.message?

/-- The header of the next message. -/
def header (s : Session) (type flags : UInt16) : Header where
  type
  flags := flags ||| MessageFlag.request
  sequence := s.nextSequence
  portId := s.portId

/-- The arena of the next message, before its header is laid: nothing of it is committed, but it
holds what was staged and received before. -/
def blank (s : Session) : Arena := { s.draft.arena with committed := 0 }

/-- There is room to begin a message, or room can be grown.  Only a send buffer of more than a
quarter of all sizes can lack it, and not in a session that was just opened. -/
def CanBegin (s : Session) : Prop :=
  s.options.sendBufferSize ≤ s.draft.arena.capacity ∨ s.options.sendBufferSize * 2 ≤ Size.greatest

end Session

namespace Arena

variable {ε : Type} {a : Arena} {room : Nat}

/-- Starting over with room that is there or can be grown keeps the tape. -/
lemma reset_grown (h : room ≤ a.capacity ∨ room * 2 ≤ Size.greatest) :
    ∃ zeros, room ≤ a.capacity + zeros ∧ (reset room : Run ε Arena Unit) a
      = .ok () { storage := a.storage ++ List.replicate zeros 0, committed := 0 } := by
  rw [reset, Run.bind_of_ok (Run.modify_apply _ _)]
  rcases h with hroom | hspace
  · refine ⟨0, hroom, ?_⟩
    have hwrap : Size.wrap (0 + room) ≤ a.storage.length := by
      rw [Nat.zero_add]
      exact Nat.le_trans (Nat.mod_le _ _) hroom
    simp only [reserve, capacity, if_pos hwrap, List.replicate_zero, List.append_nil]
  · have hspace' : HasSpace { a with committed := 0 } room := by
      simpa only [HasSpace, Nat.zero_add] using hspace
    obtain ⟨zeros, hroom, hreserve⟩ := reserve_eq_ok (ε := ε) hspace'.canHold
    refine ⟨zeros, ?_, hreserve⟩
    rw [Nat.zero_add] at hroom
    exact hroom

end Arena

namespace Session

variable {ε : Type} {s : Session} {cells : List Cell}

/-- Beginning a message takes its number and lays its header in an arena that commits nothing
else. -/
lemma begin_laid (hs : s.CanBegin) (type flags : UInt16) :
    ∃ d, (begin type flags : Run ε Session Unit) s
        = .ok () { s with nextSequence := s.nextSequence + 1, draft := d } ∧
      d.marks = [] ∧ s.blank.Laid (written (s.header type flags).encode) d.arena := by
  have hroom : max s.options.sendBufferSize Header.size ≤ s.draft.arena.capacity ∨
      max s.options.sendBufferSize Header.size * 2 ≤ Size.greatest := by
    have hheader : Header.size * 2 ≤ Size.greatest := by decide
    rcases hs with hs | hs <;> simp only [Header.size] at hheader ⊢ <;> omega
  obtain ⟨zeros, hzeros, hreset⟩ := Arena.reset_grown (ε := ε) hroom
  have hlength : (written (s.header type flags).encode).length = Header.size := by
    rw [length_written, Header.length_encode]
  have hsmall : s.blank.committed + Header.size ≤ Size.greatest := by
    show 0 + Header.size ≤ Size.greatest
    decide
  have hzeros' : s.blank.committed + Header.size ≤ s.blank.capacity + zeros := by
    simp only [blank, Arena.capacity] at hzeros ⊢
    omega
  obtain ⟨a, hlay, hlaid⟩ : ∃ a,
      (do Arena.write (s.header type flags).encode; Arena.commit Header.size : Run ε Arena Unit)
        { storage := s.draft.arena.storage ++ List.replicate zeros 0, committed := 0 } = .ok () a ∧
      s.blank.Laid (written (s.header type flags).encode) a := by
    rw [← hlength] at hsmall hzeros' ⊢
    obtain ⟨a, hlay, hextended⟩ := Arena.extended_of_grown (ε := ε) (a := s.blank)
      (Nat.zero_le _) hsmall hzeros' (settle_written (by simp)).symm
    exact ⟨a, hlay, hextended.toLaid⟩
  refine ⟨{ arena := a, marks := [] }, ?_, rfl, hlaid⟩
  obtain ⟨⟨⟩, b, hwrite, hcommit⟩ := Run.bind_eq_ok.1 hlay
  have hstart : (Draft.start (s.header type flags) s.options.sendBufferSize : Run ε Draft Unit)
      s.draft = .ok () { arena := a, marks := [] } := by
    rw [Draft.start, Run.bind_of_ok (Draft.onArena_eq_ok.2 ⟨_, hreset, rfl⟩),
      Run.bind_of_ok (Run.modify_apply _ _),
      Run.bind_of_ok (Draft.onArena_eq_ok.2 ⟨b, hwrite, rfl⟩)]
    exact Draft.onArena_eq_ok.2 ⟨a, hcommit, rfl⟩
  rw [begin, Run.bind_of_ok (Run.state_apply s), Run.bind_of_ok (Run.modify_apply _ _)]
  exact onDraft_eq_ok.2 ⟨_, hstart, rfl⟩

/-- A run that lays cells can always compose the next message. -/
lemma begin_lays {levels : Nat} {run : Run Misuse Draft Unit} (hs : s.CanBegin)
    (hrun : Draft.Lays levels run cells) (hlevels : levels ≤ Draft.maxDepth)
    (hspace : (Header.size + cells.length) * 2 ≤ Size.greatest) (type flags : UInt16) :
    ∃ d d', (begin type flags : Run ε Session Unit) s
        = .ok () { s with nextSequence := s.nextSequence + 1, draft := d } ∧
      run d = .ok () d' ∧ d'.marks = [] ∧
      s.blank.Laid (written (s.header type flags).encode ++ cells) d'.arena := by
  obtain ⟨d, hbegin, hmarks, hheader⟩ := begin_laid (ε := ε) hs type flags
  have hfits : s.blank.committed ≤ s.blank.capacity := Nat.zero_le _
  have hcommitted : d.arena.committed = Header.size := by
    have hlength := hheader.committed hfits
    rw [length_written, Header.length_encode, blank, Nat.zero_add] at hlength
    exact hlength
  have hready : d.Ready := by
    refine ⟨hheader.fits, ?_⟩
    rw [Draft.length, hcommitted]
    decide
  have hdepth : d.depth + levels ≤ Draft.maxDepth := by
    rw [Draft.depth, hmarks, List.length_nil, Nat.zero_add]
    exact hlevels
  obtain ⟨d', hd', hlaid⟩ := hrun d hready hdepth (by rwa [Arena.HasSpace, hcommitted])
  exact ⟨d, d', hbegin, hd', hlaid.marks.trans hmarks, hheader.trans hfits hlaid.arena⟩

/-! ## Sending a message -/

/-- The message as it is offered to the kernel: the header with the length of the whole, and cells
settled over what the storage held before. -/
def message (a : Arena) (h : Header) (cells : List Cell) : List UInt8 :=
  Header.encode { h with length := UInt32.ofNat (Header.size + cells.length) }
    ++ settle cells (a.window Header.size cells.length)

/-- The draft is offered to the kernel as often as the policy says. -/
lemma deliver_sent (s : Session) :
    ∃ s', (deliver s = .ok () s' ∨ ∃ errno, deliver s = .refused (.io errno) s') ∧
      s'.sent = s.sent
        ++ List.replicate (s.options.retry.attempts s.channel.sendCodes 0) s.draft.bytes := by
  have hmessages := Channel.messages_of_sendAgainst s.options.retry s.draft.bytes
    s.channel.sendCodes 0
  rw [← hmessages]
  simp only [deliver, Channel.send]
  rcases Channel.sendAgainst s.options.retry s.draft.bytes s.channel.sendCodes 0
    with ⟨errno | ⟨⟨⟩⟩, left, calls⟩
  · exact ⟨_, .inr ⟨errno, rfl⟩, List.filterMap_append⟩
  · exact ⟨_, .inl rfl, List.filterMap_append⟩

/-- Filling in the length of a message that was composed. -/
lemma stampLength_laid {a : Arena} {h : Header} {d : Draft} (ha : a.committed = 0)
    (hlaid : a.Laid (written h.encode ++ cells) d.arena) :
    ∃ d', (Draft.stampLength : Run ε Draft Unit) d = .ok () d' ∧ d'.bytes = message a h cells := by
  have hfits : a.committed ≤ a.capacity := ha ▸ Nat.zero_le _
  have hlength : d.length = Header.size + cells.length := by
    have hcommitted := hlaid.committed hfits
    rw [ha, Nat.zero_add, List.length_append, length_written, Header.length_encode] at hcommitted
    exact hcommitted
  -- the length is written over the first bytes of the header
  rw [Header.encode, written_append, List.append_assoc] at hlaid
  obtain ⟨b, hpatch, hpatched⟩ := hlaid.overwrite (ε := ε)
    (ofU32 (UInt32.ofNat (Header.size + cells.length))) hfits rfl
  rw [← List.append_assoc, ← written_append] at hpatched
  change a.Laid (written (Header.encode
    { h with length := UInt32.ofNat (Header.size + cells.length) }) ++ cells) b at hpatched
  refine ⟨{ d with arena := b }, ?_, ?_⟩
  · rw [Draft.stampLength, Run.bind_of_ok (Run.state_apply d), hlength, ← ha]
    exact Draft.onArena_eq_ok.2 ⟨b, hpatch, rfl⟩
  · show b.data = _
    rw [hpatched.data, ha, Arena.data, ha, List.take_zero, List.nil_append, List.length_append,
      length_written, Header.length_encode, Arena.window_add, settle_append (by simp),
      settle_written (by simp), Nat.zero_add, message]

/-- A message that was composed is offered to the kernel with its length filled in.  It is refused
only if the kernel refuses it. -/
lemma transmit_laid {a : Arena} {h : Header} (ha : a.committed = 0) (hmarks : s.draft.marks = [])
    (hlaid : a.Laid (written h.encode ++ cells) s.draft.arena) :
    ∃ s', (transmit s = .ok h.sequence s' ∨ ∃ errno, transmit s = .refused (.io errno) s') ∧
      s'.sent = s.sent
        ++ List.replicate (s.options.retry.attempts s.channel.sendCodes 0) (message a h cells) := by
  obtain ⟨d, hd, hbytes⟩ := stampLength_laid (ε := SessionError) ha hlaid
  have hstamp : (onDraft Draft.stampLength : Run SessionError Session Unit) s
      = .ok () { s with draft := d } :=
    onDraft_eq_ok.2 ⟨d, hd, rfl⟩
  have hheader : Header.decode d.bytes
      = .ok { h with length := UInt32.ofNat (Header.size + cells.length) } := by
    rw [hbytes]
    exact Header.decode_encode_append ..
  have hdepth : ¬ 0 < s.draft.depth := by
    rw [Draft.depth, hmarks]
    exact Nat.lt_irrefl 0
  obtain ⟨s', hdeliver, hsent⟩ := deliver_sent { s with draft := d }
  rw [← hbytes]
  refine ⟨s', ?_, hsent⟩
  rw [transmit, Run.bind_of_ok (Run.state_apply s), if_neg hdepth, Run.bind_of_ok hstamp,
    Run.bind_of_ok (Run.state_apply _)]
  simp only [hheader]
  rcases hdeliver with hdeliver | ⟨errno, hdeliver⟩
  · exact .inl (Run.bind_of_ok hdeliver _)
  · exact .inr ⟨errno, Run.bind_of_refused hdeliver _⟩

/-- The same for sending without waiting. -/
lemma send_laid {a : Arena} {h : Header} (ha : a.committed = 0) (hmarks : s.draft.marks = [])
    (hlaid : a.Laid (written h.encode ++ cells) s.draft.arena) :
    ∃ s', (send s = .ok () s' ∨ ∃ errno, send s = .refused (.io errno) s') ∧
      s'.sent = s.sent
        ++ List.replicate (s.options.retry.attempts s.channel.sendCodes 0) (message a h cells) := by
  obtain ⟨s', htransmit | ⟨errno, htransmit⟩, hsent⟩ := transmit_laid ha hmarks hlaid
  · exact ⟨s', .inl (Run.bind_of_ok htransmit _), hsent⟩
  · exact ⟨s', .inr ⟨errno, Run.bind_of_refused htransmit _⟩, hsent⟩

lemma message_of_written (a : Arena) (h : Header) (bytes : List UInt8) :
    message a h (written bytes)
      = Header.encode { h with length := UInt32.ofNat (Header.size + bytes.length) } ++ bytes := by
  rw [message, settle_written (by simp), length_written]

/-- A run on the draft that succeeds also succeeds on the session. -/
lemma compose_of_ok {α : Type} {run : Run Misuse Draft α} {value : α} {d : Draft}
    (h : run s.draft = .ok value d) : compose run s = .ok value { s with draft := d } := by
  rw [compose, Run.mapCause, onDraft_eq_ok.2 ⟨d, h, rfl⟩]

/-! ## Reading an answer -/

section Steady

variable {α β : Type} {view : Session → β}

/-- A view of a session that sees neither the draft nor what has been received. -/
structure Steady (view : Session → β) : Prop where
  draft : ∀ s d, view { s with draft := d } = view s
  receive : ∀ {s : Session} {policy room reception channel},
    s.channel.receive policy room = some (reception, channel) → view { s with channel } = view s

/-- However the run ends, the view is what it was. -/
def Keeps (view : Session → β) (run : Run ε Session α) : Prop := ∀ s, view (run s).state = view s

lemma Keeps.bind {γ : Type} {first : Run ε Session α} {next : α → Run ε Session γ}
    (h : Keeps view first) (h' : ∀ value, Keeps view (next value)) :
    Keeps view (first >>= next) := by
  intro s
  have hfirst := h s
  rw [Run.bind_apply]
  rcases hrun : first s with ⟨value, t⟩ | ⟨cause, t⟩ | ⟨fault, t⟩ <;> rw [hrun] at hfirst
  · exact (h' value t).trans hfirst
  · exact hfirst
  · exact hfirst

lemma keeps_pure (value : α) : Keeps view (pure value : Run ε Session α) := fun _ => rfl

lemma keeps_refuse (cause : ε) : Keeps view (Run.refuse cause : Run ε Session α) := fun _ => rfl

lemma keeps_state : Keeps view (Run.state : Run ε Session Session) := fun _ => rfl

namespace Steady

variable (h : Steady view)
include h

lemma onDraft (run : Run ε Draft α) : Keeps view (onDraft run) := by
  intro s
  rw [Session.onDraft, Run.within]
  rcases run s.draft with ⟨_, d⟩ | ⟨_, d⟩ | ⟨_, d⟩ <;> exact h.draft s d

lemma clearForReceiving : Keeps view (clearForReceiving : Run ε Session Unit) :=
  keeps_state.bind fun _ => h.onDraft _

lemma fetch : Keeps view fetch := by
  intro s
  rw [Session.fetch]
  rcases hreceive : s.channel.receive s.options.retry s.draft.arena.capacity
    with _ | ⟨_ | _, channel⟩
  · rfl
  · exact (h.draft { s with channel } _).trans (h.receive hreceive)
  · exact h.receive hreceive

lemma receiveBatch : Keeps view Session.receive := by
  refine h.clearForReceiving.bind fun _ => h.fetch.bind ?_
  rintro ⟨count, fromKernel⟩
  dsimp only
  split
  · exact keeps_refuse _
  · split
    · exact keeps_refuse _
    · exact keeps_state.bind fun _ => (h.onDraft _).bind fun _ => keeps_pure _

end Steady

end Steady

/-- What has been offered to the kernel is such a view. -/
lemma steady_sent : Steady sent := ⟨fun _ _ => rfl, fun h => Channel.messages_of_receive h⟩

end Session

namespace Answer

/-- What is left to read after a step. -/
def Step.rest : Step → Answer
  | .yield _ rest | .fail _ rest | .finish rest | .advance rest | .halt _ rest => rest

variable {a : Answer}

lemma judge_rest (r : Record) (a : Answer) : (judge r a).rest.session = a.session := by
  rw [judge]
  split
  · rfl
  · split <;> rfl
  · rfl

section Steady

variable {β : Type} {view : Session → β} (hview : Session.Steady view)
include hview

/-- A step of reading leaves a steady view as it was. -/
lemma view_of_step {result : Step} (h : a.step = result) :
    view result.rest.session = view a.session := by
  rw [← h, step]
  split
  · rfl
  · split
    · split
      · rfl
      · have hkeeps := hview.receiveBatch a.session
        rw [refill]
        rcases hreceive : a.session.receive with _ | _ | _ <;> rw [hreceive] at hkeeps <;>
          exact hkeeps
    · rw [scan]
      split
      · rfl
      · split
        · rfl
        · split
          · rfl
          · split
            · rfl
            · exact congrArg view (judge_rest _ _)

lemma view_of_next {outcome : Outcome SessionError Answer (Option Response)}
    (h : a.next = outcome) : view outcome.state.session = view a.session := by
  -- induction on the steps of the call
  subst h
  fun_induction next a with
  | case1 a response rest hstep => exact view_of_step hview hstep
  | case2 a cause rest hstep => exact view_of_step hview hstep
  | case3 a rest hstep => exact view_of_step hview hstep
  | case4 a fault rest hstep => exact view_of_step hview hstep
  | case5 a rest hstep ih => exact ih.trans (view_of_step hview hstep)

lemma view_of_forEach {γ : Type} (handler : γ → Response → γ × Option String) (a : Answer)
    (c : γ) : view (a.forEach handler c).state.1.session = view a.session := by
  -- induction on the responses that are read
  fun_induction forEach handler a c with
  | case1 a c rest hnext => exact view_of_next hview hnext
  | case2 a c cause rest hnext => exact view_of_next hview hnext
  | case3 a c fault rest hnext => exact view_of_next hview hnext
  | case4 a c response rest hnext c' hhandler ih => exact ih.trans (view_of_next hview hnext)
  | case5 a c response rest hnext c' text hhandler => exact view_of_next hview hnext

end Steady

end Answer

namespace Session

section Steady

variable {β : Type} {view : Session → β} (h : Steady view)
include h

/-- A steady view of a session that asks for an answer is what it is without. -/
lemma Steady.sendAcked (s : Session) : view (sendAcked s).state = view (transmit s).state := by
  rw [Session.sendAcked, Run.bind_apply]
  rcases transmit s with ⟨number, t⟩ | ⟨cause, t⟩ | ⟨fault, t⟩
  · exact (h.clearForReceiving.bind fun _ => keeps_state.bind fun _ => keeps_pure _) t
  · rfl
  · rfl

lemma Steady.sendWith {γ : Type} (handler : γ → Response → γ × Option String) (s : Session)
    (c : γ) : view (sendWith handler (s, c)).state.1 = view (transmit s).state := by
  have hview := h.sendAcked s
  rw [Session.sendWith]
  rcases hacked : Session.sendAcked s with ⟨a, t⟩ | ⟨cause, t⟩ | ⟨fault, t⟩ <;> rw [hacked] at hview
  · obtain ⟨ha, -⟩ := sendAcked_eq_ok hacked
    have hread := Answer.view_of_forEach h handler a c
    have hsession : a.session = t := by rw [ha]
    rw [hsession] at hread
    dsimp only
    rcases hend : a.forEach handler c with ⟨⟨⟩, rest, _⟩ | ⟨cause, rest, _⟩ | ⟨fault, rest, _⟩ <;>
      rw [hend] at hread <;> exact hread.trans hview
  · exact hview
  · exact hview

lemma Steady.submit (wait : Bool) (s : Session) :
    view (submit wait s).state = view (transmit s).state := by
  cases wait with
  | false =>
    show view (send s).state = _
    rw [send, Run.bind_apply]
    rcases transmit s with _ | _ | _ <;> rfl
  | true =>
    have hview := h.sendWith (fun b _ => (b, none)) s ()
    show view (sendAndWait s).state = _
    rw [sendAndWait, Run.within]
    rcases hwith : Session.sendWith (fun b _ => (b, none)) (s, ()) with _ | _ | _ <;>
      rw [hwith] at hview <;> exact hview

end Steady

/-- What is sent by asking for an answer is what is sent without. -/
lemma sent_of_sendWith {β : Type} (handler : β → Response → β × Option String) (s : Session)
    (b : β) : (sendWith handler (s, b)).state.1.sent = (transmit s).state.sent :=
  steady_sent.sendWith handler s b

lemma sent_of_submit (wait : Bool) (s : Session) :
    (submit wait s).state.sent = (transmit s).state.sent :=
  steady_sent.submit wait s

/-! ## Every way to send a draft -/

variable {s s' : Session}

/-- What a session may be after its draft was sent, or was not, in any of the ways to send it. -/
inductive Submits (s : Session) : Session → Prop where
  /-- It was sent without waiting. -/
  | send : Submits s (send s).state
  /-- It was sent, and the answer is there to be read. -/
  | sendAcked : Submits s (sendAcked s).state
  /-- It was sent, and a handler was given the answer. -/
  | sendWith {β : Type} (handler : β → Response → β × Option String) (b : β) :
    Submits s (sendWith handler (s, b)).state.1
  /-- It was sent, and the answer was waited for. -/
  | sendAndWait : Submits s (sendAndWait s).state

/-- In whichever way the draft is sent, a steady view ends up the same. -/
lemma Steady.submits {β : Type} {view : Session → β} (hview : Steady view) (h : s.Submits s') :
    view s' = view (transmit s).state := by
  cases h with
  | send => exact hview.submit false s
  | sendAcked => exact hview.sendAcked s
  | sendWith handler b => exact hview.sendWith handler s b
  | sendAndWait => exact hview.submit true s

/-- Whatever was done to a message behind its header, it is offered to the kernel with its header's
length filled in. -/
lemma sent_of_staged {h : Header} {payload : List UInt8}
    (hfits : s.draft.arena.committed ≤ s.draft.arena.capacity) (hmarks : s.draft.marks = [])
    (hbytes : s.draft.bytes = h.encode ++ payload) (hsubmits : s.Submits s') :
    s'.sent = s.sent ++ List.replicate (s.options.retry.attempts s.channel.sendCodes 0)
      (Header.encode { h with length := UInt32.ofNat s.draft.length } ++ payload) := by
  have hlaid : s.blank.Laid (written h.encode ++ written payload) s.draft.arena := by
    refine ⟨hfits, ?_, fun _ _ => rfl⟩
    rw [← written_append, settle_written (by simp)]
    exact hbytes
  have hlength : s.draft.length = Header.size + payload.length := by
    have hdata := congrArg List.length hbytes
    rwa [Draft.bytes, Arena.length_data hfits, List.length_append, Header.length_encode] at hdata
  obtain ⟨t, htransmit, hsent⟩ := transmit_laid rfl hmarks hlaid
  rw [steady_sent.submits hsubmits, hlength, ← message_of_written s.blank, ← hsent]
  rcases htransmit with htransmit | ⟨errno, htransmit⟩ <;> rw [htransmit] <;> rfl

/-- However the draft would be sent, the session refuses for the cause and is then `t`. -/
structure RefusesToSend (s : Session) (cause : SessionError) (t : Session) : Prop where
  send : send s = .refused cause t
  sendAcked : sendAcked s = .refused cause t
  sendWith : ∀ {β : Type} (handler : β → Response → β × Option String) (b : β),
    sendWith handler (s, b) = .refused cause (t, b)
  sendAndWait : sendAndWait s = .refused cause t

/-- What is not given to the kernel is not sent in any way. -/
lemma refusesToSend_of_transmit {cause : SessionError} {t : Session}
    (h : transmit s = .refused cause t) : s.RefusesToSend cause t := by
  have hacked : Session.sendAcked s = .refused cause t := Run.bind_of_refused h _
  have hwith : ∀ {β : Type} (handler : β → Response → β × Option String) (b : β),
      Session.sendWith handler (s, b) = .refused cause (t, b) := by
    intro β handler b
    simp only [Session.sendWith, hacked]
  refine ⟨Run.bind_of_refused h _, hacked, hwith, ?_⟩
  simp only [Session.sendAndWait, Run.within, hwith]

/-- However the draft would be sent, the session refuses because attributes are open, and makes no
call. -/
structure RefusesOpen (s : Session) : Prop where
  send : send s = .refused (.misuse (.stillOpen s.draft.depth)) s
  sendAcked : sendAcked s = .refused (.misuse (.stillOpen s.draft.depth)) s
  sendWith : ∀ {β : Type} (handler : β → Response → β × Option String) (b : β),
    sendWith handler (s, b) = .refused (.misuse (.stillOpen s.draft.depth)) (s, b)
  sendAndWait : sendAndWait s = .refused (.misuse (.stillOpen s.draft.depth)) s

/-- A draft with an open attribute is not sent. -/
lemma refusesOpen_of_depth_pos (h : 0 < s.draft.depth) : s.RefusesOpen := by
  have htransmit : transmit s = .refused (.misuse (.stillOpen s.draft.depth)) s := by
    rw [transmit, Run.bind_of_ok (Run.state_apply s), if_pos h]
    rfl
  have hrefuses := refusesToSend_of_transmit htransmit
  exact ⟨hrefuses.send, hrefuses.sendAcked, hrefuses.sendWith, hrefuses.sendAndWait⟩

end Session

end Rtnetlink
