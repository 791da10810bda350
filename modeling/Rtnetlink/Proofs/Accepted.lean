import Rtnetlink.Proofs.Decoding
import Rtnetlink.Proofs.Handling
import Rtnetlink.Proofs.Requests
import Rtnetlink.Proofs.Retrying

/-!
# Requests that the kernel takes

Where the kernel takes the message of a configuration request, the call has one message sent, and
what it is refused for afterwards is what the kernel answers.  No call is refused for a misuse of
the session.

* `Answer.next_refusal`: reading an answer fails for what the kernel did, never for a misuse;
* `Session.Composed.sent_at`: a composed request is offered until the kernel takes it;
* `Session.dispatch_refusal`: what a call is refused for once its message is sent;
* `Operation.asks`: what becomes of an operation whose message is taken.
-/

namespace Rtnetlink

open LittleEndian

/-! ## Failures that are not the caller's -/

/-- Every refusal of the run has a cause of that kind. -/
def Run.RefusesOnly {ε σ α : Type} (P : ε → Prop) (run : Run ε σ α) : Prop :=
  ∀ s cause s', run s = .refused cause s' → P cause

namespace Run.RefusesOnly

variable {ε σ α β : Type} {P : ε → Prop}

lemma of_unrefused {run : Run ε σ α} (h : Unrefused run) : RefusesOnly P run :=
  fun s cause s' hend => absurd hend (h s cause s')

lemma refuse {cause : ε} (h : P cause) : RefusesOnly P (Run.refuse cause : Run ε σ α) := by
  intro s cause' s' hend
  cases hend
  exact h

lemma bind {first : Run ε σ α} {next : α → Run ε σ β} (h : RefusesOnly P first)
    (h' : ∀ value, RefusesOnly P (next value)) : RefusesOnly P (first >>= next) := by
  intro s cause s' hend
  rw [bind_apply] at hend
  rcases hfirst : first s with ⟨value, t⟩ | ⟨cause', t⟩ | ⟨fault, t⟩ <;> rw [hfirst] at hend
  · exact h' value t cause s' hend
  · cases hend
    exact h s _ _ hfirst
  · cases hend

end Run.RefusesOnly

/-- The failure is one of the kernel or of the channel to it. -/
def SessionError.OfKernel (cause : SessionError) : Prop :=
  cause.errorClass = .kernel ∨ cause.errorClass = .transport

namespace Session

lemma unrefused_clearForReceiving {ε : Type} :
    Run.Unrefused (clearForReceiving : Run ε Session Unit) :=
  Run.unrefused_state.bind fun _ => (Arena.unrefused_reset _).within.within

lemma receive_transport : Run.RefusesOnly (·.errorClass = .transport) receive := by
  have hfetch : Run.RefusesOnly (·.errorClass = .transport) fetch := by
    intro s cause s' hend
    rw [fetch] at hend
    split at hend
    · cases hend
    · cases hend
      rfl
    · cases hend
  refine (Run.RefusesOnly.of_unrefused unrefused_clearForReceiving).bind fun _ => hfetch.bind ?_
  rintro ⟨count, fromKernel⟩
  dsimp only
  split
  · exact .refuse rfl
  · split
    · exact .refuse rfl
    · exact .of_unrefused <| Run.unrefused_state.bind fun _ =>
        (Arena.unrefused_commit _).within.within.bind fun _ => Run.unrefused_pure _

lemma receive_refusal : Run.RefusesOnly SessionError.OfKernel receive :=
  fun s cause s' hend => .inr (receive_transport s cause s' hend)

/-- Turning to the answer is not refused: what is refused has not been sent. -/
lemma transmit_of_sendAcked_refused {s s' : Session} {cause : SessionError}
    (h : sendAcked s = .refused cause s') : transmit s = .refused cause s' := by
  rw [sendAcked] at h
  rcases htransmit : transmit s with ⟨number, u⟩ | ⟨cause', u⟩ | ⟨fault, u⟩
  · rw [Run.bind_of_ok htransmit] at h
    exact absurd h ((unrefused_clearForReceiving.bind fun _ => Run.unrefused_state.bind
      fun _ => Run.unrefused_pure _) u cause s')
  · rw [Run.bind_of_refused htransmit] at h
    cases h
    rfl
  · rw [Run.bind_of_halted htransmit] at h
    cases h

end Session

namespace Answer

variable {a rest : Answer} {cause : SessionError}

lemma judge_failure {record : Record} (h : judge record a = .fail cause rest) :
    cause.OfKernel := by
  rw [judge] at h
  split at h
  · cases h
    exact .inr rfl
  · split at h
    · cases h
      exact .inl rfl
    · cases h
  · cases h

/-- A step fails because of what the kernel answered, or did not. -/
lemma step_failure (h : a.step = .fail cause rest) : cause.OfKernel := by
  rw [step] at h
  split at h
  · cases h
  · split at h
    · split at h
      · cases h
      · -- the next batch is refused
        rw [refill] at h
        split at h
        · cases h
        · next hreceive =>
          cases h
          exact Session.receive_refusal _ _ _ hreceive
        · cases h
    · -- a record of the batch ends the answer
      rw [scan] at h
      split at h
      · cases h
      · split at h
        · cases h
        · split at h
          · cases h
          · split at h
            · cases h
            · exact judge_failure h

/-- The same for reading a response.  By induction on the steps of the call. -/
lemma next_refusal (h : a.next = .refused cause rest) : cause.OfKernel := by
  fun_induction next a with
  | case1 => cases h
  | case2 a cause' rest' hstep =>
    cases h
    exact step_failure hstep
  | case3 => cases h
  | case4 => cases h
  | case5 a rest' hstep ih => exact ih h

/-- Hearing the answer with a handler that never fails is refused for no other reason. -/
lemma forEach_refusal {β : Type} {b : β} {p : Answer × β}
    (h : a.forEach (fun b _ => (b, none)) b = .refused cause p) : cause.OfKernel := by
  fun_induction forEach (fun b _ => (b, none)) a b with
  | case1 => cases h
  | case2 a b cause' rest' hnext =>
    cases h
    exact next_refusal hnext
  | case3 => cases h
  | case4 a b response rest' hnext b' hhandler ih => exact ih h
  | case5 a b response rest' hnext b' text hhandler => cases hhandler

end Answer

/-! ## A request that the kernel takes -/

namespace Session

variable {s t : Session} {r : Request}

/-! ### The message -/

lemma length_message (a : Arena) (h : Header) (cells : List Cell) :
    (message a h cells).length = Header.size + cells.length := by
  rw [message, List.length_append, Header.length_encode, length_settle (Arena.length_window ..)]

lemma decode_message (a : Arena) (h : Header) (cells : List Cell) :
    Header.decode (message a h cells)
      = .ok { h with length := UInt32.ofNat (message a h cells).length } := by
  rw [length_message]
  exact Header.decode_encode_append ..

lemma settles_message (a : Arena) (h : Header) (cells : List Cell) :
    Settles cells ((message a h cells).drop Header.size) :=
  ⟨_, Arena.length_window .., (Header.drop_encode_append ..).symm⟩

/-! ### The calls -/

/-- A request that was composed lies in the storage, and nothing of it is open. -/
lemma Composed.inRange (h : s.Composed r t) : t.draft.InRange := by
  have hlength := h.laid.committed (Nat.zero_le _)
  rw [List.length_append, length_written, Header.length_encode] at hlength
  have hmarks : t.draft.outline.marks = [] := h.marks_eq
  refine ⟨h.laid.fits, ?_⟩
  constructor
  · rw [Draft.length_outline h.laid.fits, Draft.length, hlength]
    omega
  · rw [Outline.depth, hmarks]
    exact Nat.zero_le _
  all_goals simp [hmarks]

/-- A request that was composed is refused only by the channel. -/
lemma Composed.transmit_refusal {cause : SessionError} {u : Session} (h : s.Composed r t)
    (hrefused : transmit t = .refused cause u) : cause.errorClass = .transport := by
  obtain ⟨v, htransmit | ⟨errno, htransmit⟩, -⟩ := transmit_laid rfl h.marks_eq h.laid
  · cases hrefused.symm.trans htransmit
  · cases hrefused.symm.trans htransmit
    rfl

/-- What is offered to the kernel is the header of the request and what its cells come to. -/
lemma Composed.completed_eq (h : s.Composed r t) : t.draft.completed
    = message s.blank (s.header r.type r.flags) r.body := by
  obtain ⟨d, hstamp, hbytes⟩ := stampLength_laid (ε := SessionError) rfl h.laid
  obtain ⟨d', hstamp', hbytes', -⟩ :=
    Draft.stampLength_eq_ok (ε := SessionError) h.inRange.fits h.inRange.header_le
  cases hstamp.symm.trans hstamp'
  exact hbytes'.symm.trans hbytes

/-- The kernel takes a message at the send call numbered `k`: the failures before it are made up
for, and this one is a success. -/
structure TakesAt (s : Session) (k : Nat) : Prop where
  first : IsLeast {i | s.options.retry.SettlesSend i (s.channel.sendCode i)} k
  taken : s.channel.sendCode k = 0

/-- A success of the first call is taken. -/
lemma takesAt_zero (hcode : s.channel.sendCode 0 = 0) : s.TakesAt 0 :=
  ⟨isLeast_zero (.inl hcode), hcode⟩

/-- A request that was composed is offered until the kernel takes it. -/
lemma Composed.sent_at {k : Nat} (h : s.Composed r t) (hk : s.TakesAt k) :
    (∃ number u, transmit t = .ok number u) ∧ ∀ u, t.Submits u → u.sends = s.sends ++
      (List.range (k + 1)).map fun i =>
        (message s.blank (s.header r.type r.flags) r.body, s.channel.sendCode i) := by
  have hdepth : t.draft.depth = 0 := by
    rw [Draft.depth, h.marks_eq]
    rfl
  have hchannel : t.channel = s.channel := by rw [h.session_eq]
  have hoptions : t.options = s.options := by rw [h.session_eq]
  obtain ⟨k', hk'⟩ := sendsUntil_of_inRange h.inRange hdepth
  have hfirst := hk'.first
  rw [hchannel, hoptions] at hfirst
  obtain rfl : k' = k := hfirst.unique hk.first
  refine ⟨?_, fun u hu => ?_⟩
  · obtain ⟨number, u, htransmit, -⟩ := hk'.succeeds (hchannel ▸ hk.taken)
    exact ⟨number, u, htransmit⟩
  · rw [hk'.calls u hu, h.completed_eq, sends, hchannel]
    rfl

/-- A request that was composed is sent with one call, if the kernel takes it. -/
lemma Composed.sent_once (h : s.Composed r t) (hcode : s.channel.sendCode 0 = 0) :
    (∃ number u, transmit t = .ok number u) ∧ ∀ u, t.Submits u → u.sends
      = s.sends ++ [(message s.blank (s.header r.type r.flags) r.body, 0)] := by
  refine ⟨(h.sent_at (takesAt_zero hcode)).1, fun u hu => ?_⟩
  rw [(h.sent_at (takesAt_zero hcode)).2 u hu]
  simp [hcode]

lemma submits_submit (wait : Bool) (t : Session) : t.Submits (submit wait t).state := by
  cases wait with
  | false => exact .send
  | true => exact .sendAndWait

/-- Once its message is sent, a call is refused only for what the kernel did. -/
lemma submit_refusal {wait : Bool} {cause : SessionError} {number : UInt32} {u : Session}
    (hsent : transmit t = .ok number u) (h : submit wait t = .refused cause s) :
    wait = true ∧ cause.OfKernel := by
  cases wait with
  | false => cases (Run.bind_of_ok hsent _ : send t = .ok () u).symm.trans h
  | true =>
    refine ⟨rfl, ?_⟩
    change sendAndWait t = _ at h
    rw [sendAndWait_eq] at h
    rcases hacked : sendAcked t with ⟨a, v⟩ | ⟨cause', v⟩ | ⟨fault, v⟩
    · rw [sendWith_of_sent hacked] at h
      rcases hheard : a.forEach (fun b _ => (b, none)) ()
        with ⟨⟨⟩, p⟩ | ⟨cause', p⟩ | ⟨fault, p⟩ <;> rw [hheard] at h <;> cases h
      exact Answer.forEach_refusal hheard
    · cases hsent.symm.trans (transmit_of_sendAcked_refused hacked)
    · rw [sendWith, hacked] at h
      cases h

lemma dispatch_refusal {wait : Bool} {cause : ConfigError} {number : UInt32} {u : Session}
    (hsent : transmit t = .ok number u) (h : dispatch wait t = .refused cause s) :
    wait = true ∧ ∃ cause', cause = .session cause' ∧ cause'.OfKernel := by
  rw [dispatch, Run.mapCause] at h
  rcases hsubmit : submit wait t with ⟨⟨⟩, v⟩ | ⟨cause', v⟩ | ⟨fault, v⟩ <;> rw [hsubmit] at h <;>
    cases h
  obtain ⟨hwait, hkernel⟩ := submit_refusal hsent hsubmit
  exact ⟨hwait, cause', rfl, hkernel⟩

/-- What becomes of a call that composes a request, where the kernel takes its message at the send
call numbered `k`. -/
structure Asks (s : Session) (type flags : UInt16) (wait : Bool) (k : Nat) (call : Configuring Unit)
    (message : List UInt8) : Prop where
  /-- All send calls offer the same message. -/
  sent : (call s).state.sends = s.sends ++
    (List.range (k + 1)).map fun i => (message, s.channel.sendCode i)
  /-- The kernel takes it once. -/
  once : ∀ i ≤ k, s.channel.sendCode i = 0 ↔ i = k
  /-- Without waiting, that is all. -/
  returns : wait = false → ∃ t, call s = .ok () t
  /-- A call that waits may be refused for what the kernel answers, and no call for a misuse. -/
  refusal : ∀ cause t, call s = .refused cause t →
    wait = true ∧ ∃ cause', cause = .session cause' ∧ cause'.OfKernel
  /-- The message is of that type, and it asks for an acknowledgment exactly if the call waits. -/
  header : Header.decode message = .ok {
    length := UInt32.ofNat message.length
    type
    flags := flags ||| MessageFlag.ackIf wait ||| MessageFlag.request
    sequence := s.nextSequence
    portId := s.portId }

lemma asks_of_composed {type flags : UInt16} {wait : Bool} {body : List Cell} {k : Nat}
    {call : Configuring Unit} (hk : s.TakesAt k)
    (ht : s.Composed { type, flags := flags ||| MessageFlag.ackIf wait, body } t)
    (hcall : call s = dispatch wait t) :
    ∃ message, s.Asks type flags wait k call message ∧
      Settles body (message.drop Header.size) := by
  obtain ⟨⟨number, u, htransmit⟩, hsends⟩ := ht.sent_at hk
  refine ⟨message s.blank (s.header type (flags ||| MessageFlag.ackIf wait)) body, {
    sent := ?_
    once := fun i hi => ?_
    returns := fun hwait => ⟨u, ?_⟩
    refusal := fun cause v hrefused => dispatch_refusal htransmit (hcall.symm.trans hrefused)
    header := decode_message .. }, settles_message ..⟩
  · rw [hcall, state_of_dispatch]
    exact hsends _ (submits_submit wait t)
  · constructor
    · intro hzero
      by_contra hne
      exact RetryPolicy.ne_zero_of_lt hk.first (Nat.lt_of_le_of_ne hi hne) hzero
    · rintro rfl
      exact hk.taken
  · rw [hcall, hwait, dispatch]
    exact Run.mapCause_eq_ok.2 (Run.bind_of_ok htransmit _)

/-- A session whose storage holds bytes of earlier messages.  Its next send call is interrupted, and
the one after it succeeds. -/
def delayed : Session :=
  { portId := 7, draft.arena.storage := List.replicate 40 0xEE, channel.sendCodes := [4, 0] }

lemma canBegin_delayed : delayed.CanBegin := .inl (by decide)

lemma takesAt_delayed : delayed.TakesAt 1 := by
  refine ⟨⟨.inl rfl, fun i hi => ?_⟩, rfl⟩
  by_contra hbefore
  obtain rfl : i = 0 := by omega
  exact absurd hi (by decide)

end Session

/-- An operation that waits for nothing but the answer asks for what its request says. -/
lemma Operation.asks {s : Session} {op : Operation} {type flags : UInt16} {body : List Cell}
    {k : Nat} (hs : s.CanBegin) (hk : s.TakesAt k)
    (hrequest : op.request? = some { type, flags := flags ||| MessageFlag.ackIf op.waits, body })
    (hfinish : op.finish = Session.dispatch op.waits) :
    ∃ message, s.Asks type flags op.waits k op.perform message ∧
      Settles body (message.drop Header.size) := by
  obtain ⟨t, ht, hperform⟩ := op.perform_of_request hs hrequest
  rw [hfinish] at hperform
  exact Session.asks_of_composed hk ht hperform

end Rtnetlink
