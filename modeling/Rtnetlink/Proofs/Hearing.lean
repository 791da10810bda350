import Rtnetlink.Proofs.Handling
import Rtnetlink.Proofs.Retrying

/-!
# Hearing an answer, batch by batch

A handler is given the answer to a request response by response, by a reader with a cursor into
the arena.  Here the answer is said as a whole: batches are received one after another until one of
them has records that are heard, and these records are the answer.  The handler is given them one by
one, up to the first that reports an error or that it fails at.  Nothing is assumed about what the
kernel delivers.

* `Session.hear`: the records that answer a number, and the session after the batch they came in;
* `Answer.judgeAll`: what a handler makes of them;
* `Session.sendWith_of_hear`: hearing an answer is receiving it and judging its records.
-/

namespace Rtnetlink

namespace Session

variable {s t : Session} {number : UInt32} {records : List Record} {cause : SessionError}

/-- Receives batches until something of that number is heard in one of them, in front of its first
record of type done. -/
def hear (number : UInt32) (s : Session) : Outcome SessionError Session (List Record) :=
  match _received : s.receive with
  | .ok _ t =>
    match Batch.heard number t.draft.bytes with
    | [] => hear number t
    | r :: records => .ok (r :: records) t
  | .refused cause t => .refused cause t
  | .halted fault t => .halted fault t
termination_by s.channel.deliveries.length
decreasing_by exact deliveries_length_of_receive _received

lemma hear_eq (number : UInt32) (s : Session) :
    s.hear number = match s.receive with
      | .ok _ t =>
        match Batch.heard number t.draft.bytes with
        | [] => t.hear number
        | r :: records => .ok (r :: records) t
      | .refused cause t => .refused cause t
      | .halted fault t => .halted fault t := by
  rw [hear]
  split <;> next hreceived => rw [hreceived]

/-- A batch that is received is what the arena holds. -/
lemma Receiving.length_data {length : Nat} (hs : s.Receiving) (h : s.receive = .ok length t) :
    t.Receiving ∧ t.draft.bytes.length = length := by
  have hreceive := hs.receive
  rw [h] at hreceive
  obtain ⟨ht, hle⟩ := hreceive
  refine ⟨ht, Nat.le_antisymm ?_ hle⟩
  -- no more is committed than was received
  have hcommitted : t.draft.length = length := by
    rcases receive_settled hs.sized (clearForReceiving_of_reserved hs.reserved) with
      ⟨k, -, t', hends, -⟩ | ⟨-, hhalted⟩
    · split at hends
      · cases h.symm.trans hends
      · obtain ⟨hreceived, hlength, -⟩ := hends
        cases h.symm.trans hreceived
        exact hlength
    · cases h.symm.trans hhalted
  rw [← hcommitted]
  exact List.length_take_le ..

end Session

namespace Answer

variable {β : Type} {handler : β → Response → β × Option String} {a : Answer} {b b' : β}

/-- Gives the responses of records to a handler, up to the first record that reports an error or
that the handler fails at.  Yields its state and that error. -/
def judgeAll (handler : β → Response → β × Option String) :
    β → List Record → β × Option SessionError
  | b, [] => (b, none)
  | b, r :: records =>
    match r.item with
    | .error cause => (b, some cause)
    | .ok response =>
      match handler b response with
      | (b, none) => judgeAll handler b records
      | (b, some text) => (b, some (.handler text))

/-- How a call ends with that verdict. -/
def verdict (s : Session) : β × Option SessionError → Outcome SessionError (Session × β) Unit
  | (b, none) => .ok () (s, b)
  | (b, some cause) => .refused cause (s, b)

/-- Records behind others that are taken without an error are judged from where these end. -/
lemma judgeAll_append {records : List Record} (h : judgeAll handler b records = (b', none))
    (later : List Record) : judgeAll handler b (records ++ later) = judgeAll handler b' later := by
  induction records generalizing b with
  | nil =>
    cases h
    rfl
  | cons r records ih =>
    rw [judgeAll] at h
    rw [List.cons_append, judgeAll]
    rcases hitem : r.item with cause | response <;> rw [hitem] at h
    · cases h
    · dsimp only at h ⊢
      rcases hhandler : handler b response with ⟨b₁, _ | text⟩ <;> rw [hhandler] at h
      · exact ih h
      · cases h

/-- A call is the same where the next call for a response is. -/
lemma forEach_congr {a' : Answer} (h : a.next = a'.next) (b : β) :
    a.forEach handler b = a'.forEach handler b := by
  rw [forEach_eq, h, ← forEach_eq]

/-- In a batch in which something is heard, the records that are left of it are judged, and nothing
else is received. -/
lemma forEach_of_holds (handler : β → Response → β × Option String) {bytes : List UInt8}
    (h : a.Holds bytes)
    (hheard : a.found = true ∨ Batch.heard a.sequence (bytes.drop a.offset) ≠ []) (b : β) :
    (a.forEach handler b).mapState (fun p => (p.1.session, p.2))
      = verdict a.session (judgeAll handler b (Batch.heard a.sequence (bytes.drop a.offset))) := by
  -- by induction on the records that are left
  induction hrecords : Batch.heard a.sequence (bytes.drop a.offset) generalizing a b with
  | nil =>
    obtain ⟨offset, hnext⟩ := next_of_holds h
    rw [hrecords] at hnext hheard
    obtain ⟨hend, hnext⟩ := hnext
    have hfound : a.found = true := by simpa using hheard
    have hstep : step { a with offset } = .finish { a with offset, finished := true } := by
      rw [step, if_neg (by simp [h.unfinished]), if_pos hend, if_pos hfound]
    rw [forEach_eq, hnext, next_eq, hstep]
    rfl
  | cons r records ih =>
    obtain ⟨offset, hnext⟩ := next_of_holds h
    rw [hrecords] at hnext
    obtain ⟨hrest, hnext⟩ := hnext
    rw [forEach_eq, hnext, judgeAll]
    rcases r.item with cause | response
    · rfl
    · dsimp only
      rcases handler b response with ⟨b', _ | text⟩
      · have hholds : Holds { a with offset, found := true } bytes :=
          ⟨h.data, h.length, h.unfinished⟩
        exact ih hholds (.inl rfl) b' hrest
      · rfl

/-- An answer that is waited for: the call goes on in the first batch in which anything is heard, or
it ends as receiving the batches does. -/
lemma next_of_waits (h : a.Waits) (hsession : a.session.Receiving) :
    match a.session.hear a.sequence with
    | .ok records t => ∃ a' : Answer, a.next = a'.next ∧ a'.Holds t.draft.bytes ∧ a'.session = t ∧
      Batch.heard a'.sequence (t.draft.bytes.drop a'.offset) = records ∧ records ≠ []
    | .refused cause t => ∃ rest, a.next = .refused cause rest ∧ rest.session = t ∧
      rest.finished = true
    | .halted fault t => ∃ rest, a.next = .halted fault rest ∧ rest.session = t := by
  -- by induction on what is still to be delivered
  induction hn : a.session.channel.deliveries.length using Nat.strongRecOn generalizing a with
  | ind n ih =>
    have hrefill := h.step_eq
    rw [refill] at hrefill
    rw [Session.hear_eq]
    rcases hreceive : a.session.receive with ⟨length, t⟩ | ⟨cause, t⟩ | ⟨fault, t⟩ <;>
      rw [hreceive] at hrefill
    · obtain ⟨ht, hlength⟩ := hsession.length_data hreceive
      have hholds : Holds { a with session := t, length, offset := 0 } t.draft.bytes :=
        ⟨rfl, hlength.symm, h.unfinished⟩
      rw [next_of_advance hrefill]
      rcases hheard : Batch.heard a.sequence t.draft.bytes with _ | ⟨r, records⟩
      · -- nothing is heard in the batch, and the next one is waited for
        obtain ⟨offset, hnext⟩ := next_of_holds hholds
        rw [List.drop_zero] at hnext
        simp only [hheard] at hnext
        obtain ⟨hend, hnext⟩ := hnext
        have hwaits : Waits { a with session := t, length, offset } :=
          ⟨hend, h.unheard, h.unfinished, ht.reserved⟩
        rw [hnext]
        have hless := Session.deliveries_length_of_receive hreceive
        simpa only [hheard] using ih _ (hn ▸ hless) hwaits ht rfl
      · simp only [hheard]
        exact ⟨_, rfl, hholds, rfl, hheard, List.cons_ne_nil _ _⟩
    · exact ⟨_, by rw [next_eq, hrefill], rfl, rfl⟩
    · exact ⟨_, by rw [next_eq, hrefill], rfl⟩

/-- An answer that is waited for is received, and then its records are judged. -/
lemma forEach_of_waits (h : a.Waits) (hsession : a.session.Receiving) (b : β) :
    (a.forEach handler b).mapState (fun p => (p.1.session, p.2))
      = match a.session.hear a.sequence with
        | .ok records t => verdict t (judgeAll handler b records)
        | .refused cause t => .refused cause (t, b)
        | .halted fault t => .halted fault (t, b) := by
  have hnext := next_of_waits h hsession
  generalize a.session.hear a.sequence = heard at hnext ⊢
  rcases heard with ⟨records, t⟩ | ⟨cause, t⟩ | ⟨fault, t⟩
  · obtain ⟨a', hnext, hholds, rfl, rfl, hheard⟩ := hnext
    rw [forEach_congr hnext]
    exact forEach_of_holds handler hholds (.inr hheard) b
  · obtain ⟨rest, hnext, rfl, -⟩ := hnext
    rw [forEach_eq, hnext]
    rfl
  · obtain ⟨rest, hnext, rfl⟩ := hnext
    rw [forEach_eq, hnext]
    rfl

end Answer

namespace Session

/-- Hearing the answer to a message that was sent is receiving it and judging its records. -/
lemma sendWith_of_hear {β : Type} {s t : Session} {a : Answer} (hs : s.Sized)
    (h : sendAcked s = .ok a t) (handler : β → Response → β × Option String) (b : β) :
    sendWith handler (s, b) = match t.hear a.sequence with
      | .ok records u => Answer.verdict u (Answer.judgeAll handler b records)
      | .refused cause u => .refused cause (u, b)
      | .halted fault u => .halted fault (u, b) := by
  have hsession : a.session = t := by rw [(sendAcked_eq_ok h).1]
  have hreceiving := (inRange_of_sendAcked hs h).receiving
  rw [sendWith_of_sent h, ← hsession]
  exact Answer.forEach_of_waits (Answer.waits_of_sendAcked h) hreceiving b

/-- The message is sent, and these records answer its number: they are what is heard in the first
batch in which anything is. -/
def Answered (s : Session) (number : UInt32) (records : List Record) (t : Session) : Prop :=
  ∃ a u, sendAcked s = .ok a u ∧ u.hear number = .ok records t

/-- There is no answer, for that cause. -/
inductive Unanswered (s : Session) (number : UInt32) (cause : SessionError) (t : Session) :
    Prop where
  /-- The message is not sent. -/
  | unsent (hsent : sendAcked s = .refused cause t)
  /-- A batch is not received, and nothing was heard in those before it. -/
  | broken {a : Answer} {u : Session} (hsent : sendAcked s = .ok a u)
    (hheard : u.hear number = .refused cause t)

end Session

end Rtnetlink
