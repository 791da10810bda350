import Rtnetlink.Session.Basic
import Rtnetlink.Wire.Attribute
import Rtnetlink.Wire.Record

/-!
# Answers: the records that belong to one request

After a request has been sent its answer is read batch by batch.  Records of other sequence numbers
are skipped, a record of type done ends its batch, and the answer is complete with the first batch
in which a record of the awaited number was found.  A status that reports an error, or cannot be
decoded, ends the answer with that error.

The answer is read one step at a time.  `Answer.step_decreases` says that each step that does not
end it uses up a delivery or a part of the batch, so reading always comes to an end.
-/

namespace Rtnetlink

/-- A record received in answer to a request. -/
structure Response where
  /-- What the record is about. -/
  type : UInt16
  /-- Modifiers of the record. -/
  flags : UInt16
  /-- The sequence number of the request it answers. -/
  sequence : UInt32
  /-- What follows the record's header. -/
  payload : List UInt8
deriving DecidableEq, Repr

namespace Response

/-- The response a record makes. -/
def ofRecord (r : Record) : Response :=
  { type := r.header.type
    flags := r.header.flags
    sequence := r.header.sequence
    payload := r.payload }

/-- Whether this is the kernel's plain acknowledgment. -/
def isAck (r : Response) : Bool := r.type == MessageType.error

/-- The attributes behind a family header of the given size. -/
def attributes (r : Response) (headerSize : Nat) : AttributeChain :=
  { bytes := r.payload.drop headerSize }

end Response

/-- The answer to one request, as far as it has been read. -/
structure Answer where
  /-- The session that is read from. -/
  session : Session
  /-- The sequence number that is awaited. -/
  sequence : UInt32
  /-- Where the next record starts in the batch. -/
  offset : Nat := 0
  /-- The length of the batch. -/
  length : Nat := 0
  /-- Whether the batch held a record of the awaited number. -/
  found : Bool := false
  /-- Whether the answer is over. -/
  finished : Bool := false

namespace Answer

/-- What one step of reading comes to. -/
inductive Step where
  /-- A response was read. -/
  | yield (response : Response) (rest : Answer)
  /-- The answer ends with an error. -/
  | fail (cause : SessionError) (rest : Answer)
  /-- The answer is over. -/
  | finish (rest : Answer)
  /-- Nothing came of it; reading goes on. -/
  | advance (rest : Answer)
  /-- Reading halts. -/
  | halt (fault : Fault) (rest : Answer)

/-- What a record of the awaited number comes to: an error if it is a status that reports one or
cannot be decoded, else a response. -/
def judge (record : Record) (rest : Answer) : Step :=
  match record.status? with
  | some (.error cause) => .fail (.malformed cause) { rest with finished := true }
  | some (.ok status) =>
    match status.errorNumber? with
    | some number => .fail (.kernel (.ofNumber number.toInt)) { rest with finished := true }
    | none => .yield (.ofRecord record) rest
  | none => .yield (.ofRecord record) rest

/-- Reads on inside the batch, where bytes are left. -/
def scan (a : Answer) : Step :=
  let data := a.session.draft.arena.data
  if data.length < a.length then
    .halt .outOfRange a
  else
    match Record.decode ((data.take a.length).drop a.offset) with
    | .error _ => .advance { a with offset := a.length }
    | .ok record =>
      -- a record of type done ends the batch whatever its number is
      if record.isDone then
        .advance { a with offset := a.length }
      else if record.header.sequence ≠ a.sequence then
        .advance { a with offset := a.offset + record.alignedLength }
      else
        judge record { a with offset := a.offset + record.alignedLength, found := true }

/-- Reads the next batch. -/
def refill (a : Answer) : Step :=
  match a.session.receive with
  | .ok length session => .advance { a with session, length, offset := 0 }
  | .refused cause session => .fail cause { a with session, finished := true }
  | .halted fault session => .halt fault { a with session }

/-- One step of reading. -/
def step (a : Answer) : Step :=
  if a.finished then
    .finish a
  else if a.length ≤ a.offset then
    if a.found then .finish { a with finished := true } else a.refill
  else
    a.scan

/-- What is left to read: deliveries first, then bytes of the batch. -/
def size (a : Answer) : Nat × Nat :=
  (a.session.channel.deliveries.length, a.length - a.offset)

/-- The order in which what is left to read gets smaller. -/
abbrev Smaller : Nat × Nat → Nat × Nat → Prop := Prod.Lex (· < ·) (· < ·)

theorem judge_yield {record : Record} {a rest : Answer} {response : Response}
    (h : judge record a = .yield response rest) : rest = a := by
  unfold judge at h
  split at h
  · cases h
  · split at h
    · cases h
    · cases h
      rfl
  · cases h
    rfl

theorem judge_ne_advance {record : Record} {a rest : Answer} : judge record a ≠ .advance rest := by
  intro h
  unfold judge at h
  split at h
  · cases h
  · split at h <;> cases h
  · cases h

/-- A step that does not end the answer leaves less to read. -/
theorem step_decreases {a rest : Answer}
    (h : a.step = .advance rest ∨ ∃ response, a.step = .yield response rest) :
    Smaller rest.size a.size := by
  have hscan : ∀ {record : Record} {bytes : List UInt8}, Record.decode bytes = .ok record →
      a.offset < a.length → a.length - (a.offset + record.alignedLength) < a.length - a.offset := by
    intro record bytes hdecode hinside
    have hsize := Record.size_le_alignedLength hdecode
    simp only [Header.size] at hsize
    omega
  unfold step at h
  split at h
  · simp at h
  · split at h
    · split at h
      · simp at h
      · -- a batch that is read uses up a delivery
        unfold refill at h
        split at h
        · next hreceive =>
          simp only [Step.advance.injEq, reduceCtorEq, exists_false, or_false] at h
          subst h
          exact Prod.Lex.left _ _ (Session.deliveries_length_of_receive hreceive)
        · simp at h
        · simp at h
    · -- inside a batch the offset moves towards its end
      next hend =>
      have hinside := Nat.lt_of_not_le hend
      unfold scan at h
      simp only at h
      split at h
      · simp at h
      · split at h
        · simp only [Step.advance.injEq, reduceCtorEq, exists_false, or_false] at h
          subst h
          exact Prod.Lex.right _ (by simp only; omega)
        · next record hdecode =>
          split at h
          · simp only [Step.advance.injEq, reduceCtorEq, exists_false, or_false] at h
            subst h
            exact Prod.Lex.right _ (by simp only; omega)
          · split at h
            · simp only [Step.advance.injEq, reduceCtorEq, exists_false, or_false] at h
              subst h
              exact Prod.Lex.right _ (hscan hdecode hinside)
            · rcases h with h | ⟨response, h⟩
              · exact absurd h judge_ne_advance
              · cases judge_yield h
                exact Prod.Lex.right _ (hscan hdecode hinside)

/-- Reads the next response.  There is none once the answer is over. -/
def next (a : Answer) : Outcome SessionError Answer (Option Response) :=
  match _hstep : a.step with
  | .yield response rest => .ok (some response) rest
  | .fail cause rest => .refused cause rest
  | .finish rest => .ok none rest
  | .halt fault rest => .halted fault rest
  | .advance rest => next rest
termination_by a.size
decreasing_by exact step_decreases (.inl _hstep)

theorem Smaller.trans {x y z : Nat × Nat} (hxy : Smaller x y) (hyz : Smaller y z) :
    Smaller x z := by
  cases hxy with
  | left _ _ hfirst =>
    cases hyz with
    | left _ _ hfirst' => exact .left _ _ (Nat.lt_trans hfirst hfirst')
    | right _ _ => exact .left _ _ hfirst
  | right _ hsecond =>
    cases hyz with
    | left _ _ hfirst' => exact .left _ _ hfirst'
    | right _ hsecond' => exact .right _ (Nat.lt_trans hsecond hsecond')

/-- Reading a response leaves less to read. -/
theorem next_decreases {a rest : Answer} {response : Response}
    (h : a.next = .ok (some response) rest) : Smaller rest.size a.size := by
  fun_induction next a with
  | case1 a response' rest' hstep =>
    cases h
    exact step_decreases (.inr ⟨_, hstep⟩)
  | case2 => cases h
  | case3 => cases h
  | case4 => cases h
  | case5 a rest' hstep ih => exact (ih h).trans (step_decreases (.inl hstep))

/-- Gives each response to a handler with a state of its own, until the answer is over or the
handler fails with a text. -/
def forEach {β : Type} (handler : β → Response → β × Option String) (a : Answer) (b : β) :
    Outcome SessionError (Answer × β) Unit :=
  match _hnext : a.next with
  | .ok none rest => .ok () (rest, b)
  | .refused cause rest => .refused cause (rest, b)
  | .halted fault rest => .halted fault (rest, b)
  | .ok (some response) rest =>
    match handler b response with
    | (b, none) => forEach handler rest b
    | (b, some text) => .refused (.handler text) (rest, b)
termination_by a.size
decreasing_by exact next_decreases _hnext

end Answer

namespace Session

/-- Sends the draft and turns to its answer, which the same arena will receive. -/
def sendAcked : Run SessionError Session Answer := do
  let sequence ← transmit
  clearForReceiving
  let session ← Run.state
  pure { session, sequence }

/-- Sends the draft and gives each response to a handler with a state of its own.  A failure of the
handler ends the call. -/
def sendWith {β : Type} (handler : β → Response → β × Option String) :
    Run SessionError (Session × β) Unit := fun (s, b) =>
  match sendAcked s with
  | .refused cause s => .refused cause (s, b)
  | .halted fault s => .halted fault (s, b)
  | .ok answer _ =>
    match answer.forEach handler b with
    | .ok () (rest, b) => .ok () (rest.session, b)
    | .refused cause (rest, b) => .refused cause (rest.session, b)
    | .halted fault (rest, b) => .halted fault (rest.session, b)

/-- Sends the draft and waits until its answer is over. -/
def sendAndWait : Run SessionError Session Unit :=
  Run.within (·, ()) (fun (s, ()) _ => s) (sendWith fun b _ => (b, none))

/-- Sends the draft and, if asked for, waits until the kernel has answered. -/
def submit (wait : Bool) : Run SessionError Session Unit :=
  if wait then sendAndWait else send

end Session

end Rtnetlink
