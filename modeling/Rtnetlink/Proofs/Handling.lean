import Rtnetlink.Proofs.Alike

/-!
# A handler hears what can be read

An answer can be read response by response, or given to a handler.  Both come to the same: the
handler gets the responses that would be read, one by one and in that order, until it fails or the
answer ends, and the session is then where reading those responses would have left it.

* `Answer.hand`: a handler gets a list of responses;
* `Answer.EndsAt`: how hearing ends at the response that is called for last;
* `Answer.forEach_heardBy`: a handler hears what can be read, by induction on the responses;
* `Session.sendWith_hears`: the same for a message that is sent; waiting is hearing with a handler
  that never fails.
-/

namespace Rtnetlink

/-- The same end, seen through a function of the state. -/
def Outcome.mapState {ε σ τ α : Type} (f : σ → τ) : Outcome ε σ α → Outcome ε τ α
  | .ok value s => .ok value (f s)
  | .refused cause s => .refused cause (f s)
  | .halted fault s => .halted fault (f s)

lemma Outcome.mapState_mapState {ε σ τ υ α : Type} (f : σ → τ) (g : τ → υ) (o : Outcome ε σ α) :
    (o.mapState f).mapState g = o.mapState fun s => g (f s) := by
  cases o <;> rfl

namespace Answer

variable {β : Type} {handler : β → Response → β × Option String}

/-- Gives responses to a handler, in order and once each, up to the first that it fails at. -/
def hand (handler : β → Response → β × Option String) : β → List Response → β × Option String
  | b, [] => (b, none)
  | b, response :: responses =>
    match handler b response with
    | (b, none) => hand handler b responses
    | (b, some text) => (b, some text)

/-- How hearing ends where one more response is called for and the handler is in state `b`.  The
session that is left is the one that this call leaves. -/
inductive EndsAt (handler : β → Response → β × Option String) (a : Answer) (b : β) :
    Outcome SessionError (Session × β) Unit → Prop where
  /-- There is no further response. -/
  | over {rest : Answer} (hnext : a.next = .ok none rest) :
    EndsAt handler a b (.ok () (rest.session, b))
  /-- The call brings an error, and hearing ends with it. -/
  | failed {cause : SessionError} {rest : Answer} (hnext : a.next = .refused cause rest) :
    EndsAt handler a b (.refused cause (rest.session, b))
  /-- The handler fails at the response, and hearing ends with its text. -/
  | stopped {response : Response} {rest : Answer} {b' : β} {text : String}
    (hnext : a.next = .ok (some response) rest) (hhandler : handler b response = (b', some text)) :
    EndsAt handler a b (.refused (.handler text) (rest.session, b'))
  /-- The call has no result. -/
  | halted {fault : Fault} {rest : Answer} (hnext : a.next = .halted fault rest) :
    EndsAt handler a b (.halted fault (rest.session, b))

/-- A handler hears the answer: it gets responses that are read by as many calls without failing at
any of them, and hearing ends with the next call. -/
def HeardBy (handler : β → Response → β × Option String) (a : Answer) (b : β)
    (outcome : Outcome SessionError (Session × β) Unit) : Prop :=
  ∃ responses last b', a.reads responses.length = (responses.map fun r => some (.ok r), last) ∧
    hand handler b responses = (b', none) ∧ EndsAt handler last b' outcome

variable {a rest : Answer} {b b' : β} {outcome : Outcome SessionError (Session × β) Unit}

/-- Hearing may end with the first call. -/
lemma EndsAt.heardBy (h : EndsAt handler a b outcome) : HeardBy handler a b outcome :=
  ⟨[], a, b, rfl, rfl, h⟩

/-- A response that the handler takes is heard in front of the others. -/
lemma HeardBy.of_next {response : Response} (hnext : a.next = .ok (some response) rest)
    (hhandler : handler b response = (b', none)) (h : HeardBy handler rest b' outcome) :
    HeardBy handler a b outcome := by
  obtain ⟨responses, last, b'', hreads, hhand, hends⟩ := h
  refine ⟨response :: responses, last, b'', ?_, ?_, hends⟩
  · rw [List.length_cons, reads, hnext]
    simp only [hreads]
    rfl
  · rw [hand, hhandler]
    exact hhand

/-- A handler hears what can be read.  By induction on the responses that are read. -/
lemma forEach_heardBy (handler : β → Response → β × Option String) (a : Answer) (b : β) :
    HeardBy handler a b ((a.forEach handler b).mapState fun p => (p.1.session, p.2)) := by
  fun_induction forEach handler a b with
  | case1 a b rest hnext => exact (EndsAt.over hnext).heardBy
  | case2 a b cause rest hnext => exact (EndsAt.failed hnext).heardBy
  | case3 a b fault rest hnext => exact (EndsAt.halted hnext).heardBy
  | case4 a b response rest hnext b' hhandler ih => exact ih.of_next hnext hhandler
  | case5 a b response rest hnext b' text hhandler => exact (EndsAt.stopped hnext hhandler).heardBy

/-- Whatever handlers that never fail note, the answer is read as far and ends alike. -/
lemma forEach_never_failing {γ : Type} (note : β → Response → β) (note' : γ → Response → γ)
    (a : Answer) (b : β) (c : γ) :
    (a.forEach (fun b r => (note b r, none)) b).mapState (·.1.session)
      = (a.forEach (fun c r => (note' c r, none)) c).mapState (·.1.session) := by
  rw [forEach_eq a c]
  fun_induction forEach (fun b r => (note b r, none)) a b generalizing c with
  | case1 a b rest hnext => rw [hnext]; rfl
  | case2 a b cause rest hnext => rw [hnext]; rfl
  | case3 a b fault rest hnext => rw [hnext]; rfl
  | case4 a b response rest hnext b' hhandler ih =>
    rw [hnext]
    dsimp only
    rw [forEach_eq rest (note' c response)]
    exact ih _
  | case5 a b response rest hnext b' text hhandler => cases hhandler

end Answer

namespace Session

variable {β : Type} {s t : Session} {a : Answer}

/-- Hearing the answer to a message that was sent. -/
lemma sendWith_of_sent {handler : β → Response → β × Option String} {b : β}
    (h : sendAcked s = .ok a t) : sendWith handler (s, b)
      = (a.forEach handler b).mapState fun p => (p.1.session, p.2) := by
  rw [sendWith, h]
  dsimp only
  rcases a.forEach handler b with ⟨⟨⟩, rest, b'⟩ | ⟨cause, rest, b'⟩ | ⟨fault, rest, b'⟩ <;> rfl

/-- Waiting is hearing with a handler that does nothing. -/
lemma sendAndWait_eq (s : Session) :
    sendAndWait s = (sendWith (fun b _ => (b, none)) (s, ())).mapState Prod.fst := by
  rw [sendAndWait, Run.within]
  rcases sendWith (fun b _ => (b, none)) (s, ()) with _ | _ | _ <;> rfl

/-- **The handler form agrees with the iterator form.**  If the message is not sent, the handler is
not called and the session is left as it is without one.  If it is sent, the handler hears what the
calls for the next response would bring, and the session is then the one that those calls leave, so
the same calls were made on its channel and no more.  Waiting is hearing with any handler that never
fails. -/
theorem sendWith_hears (handler : β → Response → β × Option String) (s : Session) (b : β) :
    (match sendAcked s with
      | .refused cause t => sendWith handler (s, b) = .refused cause (t, b)
      | .halted fault t => sendWith handler (s, b) = .halted fault (t, b)
      | .ok a _ => a.HeardBy handler b (sendWith handler (s, b))) ∧
    ∀ note : β → Response → β, sendAndWait s
      = (sendWith (fun b r => (note b r, none)) (s, b)).mapState Prod.fst := by
  refine ⟨?_, fun note => ?_⟩
  · rcases hacked : sendAcked s with ⟨a, t⟩ | ⟨cause, t⟩ | ⟨fault, t⟩
    · rw [sendWith_of_sent hacked]
      exact Answer.forEach_heardBy handler a b
    · simp only [sendWith, hacked]
    · simp only [sendWith, hacked]
  · rw [sendAndWait_eq]
    rcases hacked : sendAcked s with ⟨a, t⟩ | ⟨cause, t⟩ | ⟨fault, t⟩
    · rw [sendWith_of_sent hacked, sendWith_of_sent hacked, Outcome.mapState_mapState,
        Outcome.mapState_mapState]
      exact Answer.forEach_never_failing (fun b _ => b) note a () b
    · simp only [sendWith, hacked, Outcome.mapState]
    · simp only [sendWith, hacked, Outcome.mapState]

end Session

end Rtnetlink
