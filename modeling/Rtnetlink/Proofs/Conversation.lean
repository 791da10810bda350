import Rtnetlink.Proofs.Composing

/-!
# Conversations: a session over time

A session is used for one thing at a time: nothing, composing a message, or reading the answer to
one.  A conversation is a session in such use, and the actions of its user take it from one use to
the next.  An action that has no place in the present use does nothing.  An action may be refused,
and the conversation goes on; once one halts, it is over.

* `Conversation.follow`: where actions lead;
* `Conversation.sent_stamped`: whatever has happened before, a message is only sent with nothing
  open, and then with a header that tells the truth about it.
-/

namespace Rtnetlink

/-- Whether a run stopped for good. -/
def Outcome.halts {ε σ α : Type} : Outcome ε σ α → Bool
  | .halted .. => true
  | _ => false

/-- What a session is used for. -/
inductive Phase where
  /-- For nothing. -/
  | idle (s : Session)
  /-- For composing a message. -/
  | composing (s : Session)
  /-- For reading an answer. -/
  | reading (a : Answer)

namespace Phase

/-- The session that is used. -/
def session : Phase → Session
  | .idle s | .composing s => s
  | .reading a => a.session

lemma idle_ne_composing (s s' : Session) : idle s ≠ composing s' := by rintro ⟨⟩

lemma reading_ne_composing (a : Answer) (s : Session) : reading a ≠ composing s := by rintro ⟨⟩

end Phase

/-- A session in use. -/
structure Conversation where
  /-- What it is used for. -/
  phase : Phase
  /-- The responses that were heard so far. -/
  heard : List Response := []

/-- What the user of a session may do. -/
inductive Action where
  /-- Begins a message, giving up whatever else was going on. -/
  | begin (type flags : UInt16)
  /-- Edits the message. -/
  | edit (e : Edit)
  /-- Gives up the message, or its answer. -/
  | drop
  /-- Sends the message without waiting. -/
  | send
  /-- Sends the message, to read its answer. -/
  | sendAcked
  /-- Sends the message, and hears its answer until the verdict on what was heard is a failure. -/
  | sendWith (verdict : List Response → Option String)
  /-- Sends the message, and waits until its answer is over. -/
  | sendAndWait
  /-- Reads the next response. -/
  | next

namespace Action

/-- Whether the action begins a message. -/
def isBegin : Action → Bool
  | .begin .. => true
  | _ => false

/-- Whether the action is to send a message. -/
def isSend : Action → Bool
  | .send | .sendAcked | .sendWith _ | .sendAndWait => true
  | _ => false

/-- The edit that the action makes. -/
def edit? : Action → Option Edit
  | .edit e => some e
  | _ => none

end Action

namespace Conversation

/-- The session that is used. -/
def session (c : Conversation) : Session := c.phase.session

/-- Uses the session for a run, and for something else afterwards. -/
def use (phase : Session → Phase) (run : Run SessionError Session Unit) :
    Run SessionError Conversation Unit :=
  Run.within session (fun s c => { c with phase := phase s }) run

/-- Does something while a message is being composed, and nothing otherwise. -/
def whenComposing (run : Run SessionError Conversation Unit) : Run SessionError Conversation Unit :=
  fun c =>
    match c.phase with
    | .composing _ => run c
    | _ => .ok () c

/-- Keeps every response, and fails as the verdict says. -/
def note (verdict : List Response → Option String) (heard : List Response) (r : Response) :
    List Response × Option String :=
  (heard ++ [r], verdict (heard ++ [r]))

/-- Sends the message, to read its answer. -/
def ask : Run SessionError Conversation Unit := fun c =>
  match Session.sendAcked c.session with
  | .ok a _ => .ok () { c with phase := .reading a }
  | .refused cause s => .refused cause { c with phase := .idle s }
  | .halted fault s => .halted fault { c with phase := .idle s }

/-- Sends the message, and hears its answer. -/
def listen (verdict : List Response → Option String) : Run SessionError Conversation Unit :=
  Run.within (fun c => (c.session, []))
    (fun (s, heard) c => { phase := .idle s, heard := c.heard ++ heard })
    (Session.sendWith (note verdict))

/-- Reads the next response, where an answer is being read. -/
def readOn : Run SessionError Conversation Unit := fun c =>
  match c.phase with
  | .reading a =>
    match a.next with
    | .ok response rest =>
      .ok () { phase := .reading rest, heard := c.heard ++ response.toList }
    | .refused cause rest => .refused cause { c with phase := .reading rest }
    | .halted fault rest => .halted fault { c with phase := .reading rest }
  | _ => .ok () c

/-- What the action does. -/
def act : Action → Run SessionError Conversation Unit
  | .begin type flags => use .composing (Session.begin type flags)
  | .edit e => whenComposing (use .composing (Session.compose e.run))
  | .drop => use .idle (pure ())
  | .send => whenComposing (use .idle Session.send)
  | .sendAcked => whenComposing ask
  | .sendWith verdict => whenComposing (listen verdict)
  | .sendAndWait => whenComposing (use .idle Session.sendAndWait)
  | .next => readOn

/-- How long the message is after the action, if it is edited by it. -/
def lengthAfter (c : Conversation) : Action → Nat
  | .edit e =>
    match c.phase with
    | .composing s => (e.effect s.draft.arena.byteAt s.draft.outline).2.length
    | _ => 0
  | _ => 0

/-- The message stays shorter than its length field can say. -/
def Short (c : Conversation) (a : Action) : Prop := c.lengthAfter a < byteLimit 4

instance (c : Conversation) (a : Action) : Decidable (c.Short a) :=
  inferInstanceAs (Decidable (_ < _))

/-- Where the actions lead, one after the other, each of them made or refused.  They lead nowhere if
one of them halts or makes a message too long. -/
def follow (c : Conversation) : List Action → Option Conversation
  | [] => some c
  | a :: rest =>
    if c.Short a ∧ (act a c).halts = false then
      (act a c).state.follow rest
    else
      none

end Conversation

namespace Outline

lemma edited_append (tape : Nat → UInt8) (edits : List Edit) (e : Edit) (o : Outline) :
    o.edited tape (edits ++ [e]) = (e.effect tape (o.edited tape edits)).2 := by
  induction edits generalizing o with
  | nil => rfl
  | cons e' edits ih => exact ih _

end Outline

/-! ## Who the session is -/

namespace Session

variable {s s₁ : Session}

/-- Who sends the next message, and its number. -/
def identity (s : Session) : UInt32 × UInt32 := (s.portId, s.nextSequence)

lemma steady_identity : Steady identity := ⟨fun _ _ => rfl, fun _ => rfl⟩

lemma identity_of_transmit (s : Session) : (transmit s).state.identity = s.identity := by
  have hdeliver : Keeps identity deliver := by
    intro s
    rw [deliver]
    rcases s.channel.send s.options.retry s.draft.bytes with ⟨_ | _, channel⟩ <;> rfl
  refine (keeps_state.bind fun s => ?_ : Keeps identity transmit) s
  split
  · exact keeps_refuse _
  · refine (steady_identity.onDraft _).bind fun _ => keeps_state.bind fun s => ?_
    split
    · exact keeps_refuse _
    · exact hdeliver.bind fun _ => keeps_pure _

lemma unrefused_begin {ε : Type} (type flags : UInt16) :
    Run.Unrefused (begin type flags : Run ε Session Unit) :=
  Run.unrefused_state.bind fun _ => (Run.unrefused_modify _).bind fun _ => Run.Unrefused.within <|
    (Arena.unrefused_reset _).within.bind fun _ => (Run.unrefused_modify _).bind fun _ =>
      (Arena.unrefused_write _).within.bind fun _ => (Arena.unrefused_commit _).within

/-! ## The message that is composed -/

/-- The session composes the message that was begun with the header and edited since; it is shorter
than its length field can say. -/
def Composes (s : Session) (h : Header) (edits : List Edit) : Prop :=
  ∃ tape, s.draft.Stages tape (byteLimit 4) (Outline.edited tape edits { bytes := h.encode }) ∧
    s.draft.length < byteLimit 4

lemma composes_of_begin {type flags : UInt16}
    (h : (begin type flags : Run SessionError Session Unit) s = .ok () s₁) :
    s₁.Composes (s.header type flags) [] := by
  obtain ⟨-, hfits, houtline⟩ := begin_eq_ok h
  have hroom : s₁.draft.arena.CanHold (byteLimit 4) := ⟨by decide, .inr (by decide)⟩
  refine ⟨_, houtline ▸ stages_of_begin h hroom, ?_⟩
  rw [← Draft.length_outline hfits, houtline, Outline.length, Header.length_encode]
  decide

variable {h : Header} {edits : List Edit}

/-- An edit that keeps the message short is made or refused, and the message is composed further. -/
lemma Composes.edit (hs : s.Composes h edits) (e : Edit)
    (hshort : (e.effect s.draft.arena.byteAt s.draft.outline).2.length < byteLimit 4) :
    ∃ d, Composes { s with draft := d } h (edits ++ [e]) ∧
      (compose e.run s = .ok () { s with draft := d } ∨
        ∃ cause, compose e.run s = .refused cause { s with draft := d }) := by
  obtain ⟨tape, hstages, -⟩ := hs
  -- the effect is the same on the storage as it is now
  have hsame : s.draft.outline.Same (Outline.edited tape edits { bytes := h.encode }) :=
    ⟨hstages.bytes_eq.symm, hstages.marks_eq.symm⟩
  have hlength : (e.effect tape (Outline.edited tape edits { bytes := h.encode })).2.length
      = (e.effect s.draft.arena.byteAt s.draft.outline).2.length :=
    (hsame.effect (fun place hplace =>
      (hstages.behind place (hsame.length_eq ▸ hplace)).symm) e).2.length_eq
  obtain ⟨d, hd, hrun⟩ := compose_of_follows (e.run_follows hstages (by omega))
  rw [← Outline.edited_append] at hd hlength
  refine ⟨d, ⟨tape, hd, by rw [hd.length_eq, hlength]; exact hshort⟩, ?_⟩
  rw [hrun]
  rcases (e.effect tape _).1 with _ | cause
  · exact .inl rfl
  · exact .inr ⟨_, rfl⟩

/-- The message starts with its header. -/
lemma Composes.bytes_eq (hs : s.Composes h edits) :
    s.draft.bytes = h.encode ++ s.draft.bytes.drop Header.size := by
  obtain ⟨tape, hstages, -⟩ := hs
  rw [hstages.bytes_eq]
  exact (Outline.changes_edited tape edits _).bytes_eq

/-- So its number can be read at any time. -/
lemma Composes.sequence_eq {ε : Type} (hs : s.Composes h edits) :
    (Draft.sequence : Run ε Draft UInt32) s.draft = .ok h.sequence s.draft := by
  have hheader := Header.decode_encode_append h (s.draft.bytes.drop Header.size)
  rw [← hs.bytes_eq, Header.decode] at hheader
  split at hheader
  · cases hheader
  · next hsize =>
    have hnumber := congrArg Header.sequence (Except.ok.inj hheader)
    rw [Draft.sequence, Run.read?_eq_ok, if_neg (by simp only [Header.size] at hsize; omega)]
    exact ⟨congrArg some hnumber, rfl⟩

end Session

namespace Conversation

variable {c c' : Conversation} {a : Action} {portId : UInt32} {past : List Action}

/-! ## What an action does to the session -/

lemma state_of_use (phase : Session → Phase) (run : Run SessionError Session Unit)
    (c : Conversation) :
    (use phase run c).state = { c with phase := phase (run c.session).state } := by
  rw [use, Run.within]
  rcases run c.session with _ | _ | _ <;> rfl

lemma session_of_composing {s : Session} (h : c.phase = .composing s) : c.session = s :=
  congrArg Phase.session h

lemma whenComposing_of_composing {run : Run SessionError Conversation Unit} {s : Session}
    (h : c.phase = .composing s) : whenComposing run c = run c := by
  rw [whenComposing, h]

lemma whenComposing_of_not_composing {run : Run SessionError Conversation Unit}
    (h : ∀ s, c.phase ≠ .composing s) : whenComposing run c = .ok () c := by
  rw [whenComposing]
  split
  · next s hs => exact absurd hs (h s)
  · rfl

/-- After an action that sends, the session is as one of the ways to send it left it, and the
message is no longer composed. -/
lemma submits_of_act {s : Session} (hsend : a.isSend) (hphase : c.phase = .composing s) :
    s.Submits (act a c).state.session ∧ ∀ s', (act a c).state.phase ≠ .composing s' := by
  have hsession := session_of_composing hphase
  cases a with
  | send =>
    rw [act, whenComposing_of_composing hphase, state_of_use, hsession]
    exact ⟨.send, Phase.idle_ne_composing _⟩
  | sendAcked =>
    rw [act, whenComposing_of_composing hphase, ask, hsession]
    have hsubmits : s.Submits (Session.sendAcked s).state := .sendAcked
    rcases hacked : Session.sendAcked s with ⟨a, t⟩ | ⟨cause, t⟩ | ⟨fault, t⟩ <;>
      rw [hacked] at hsubmits
    · obtain ⟨ha, -⟩ := Session.sendAcked_eq_ok hacked
      have hsession : a.session = t := by rw [ha]
      exact ⟨hsession ▸ hsubmits, Phase.reading_ne_composing a⟩
    · exact ⟨hsubmits, Phase.idle_ne_composing t⟩
    · exact ⟨hsubmits, Phase.idle_ne_composing t⟩
  | sendWith verdict =>
    rw [act, whenComposing_of_composing hphase, listen, Run.within, hsession]
    have hsubmits : s.Submits (Session.sendWith (note verdict) (s, [])).state.1 := .sendWith _ _
    rcases hwith : Session.sendWith (note verdict) (s, [])
      with ⟨⟨⟩, t, _⟩ | ⟨cause, t, _⟩ | ⟨fault, t, _⟩ <;> rw [hwith] at hsubmits <;>
      exact ⟨hsubmits, Phase.idle_ne_composing t⟩
  | sendAndWait =>
    rw [act, whenComposing_of_composing hphase, state_of_use, hsession]
    exact ⟨.sendAndWait, Phase.idle_ne_composing _⟩
  | begin => cases hsend
  | edit => cases hsend
  | drop => cases hsend
  | next => cases hsend

/-- Where no message is composed, none is sent. -/
lemma act_of_not_composing (hsend : a.isSend) (h : ∀ s, c.phase ≠ .composing s) :
    act a c = .ok () c := by
  cases a with
  | send => exact whenComposing_of_not_composing h
  | sendAcked => exact whenComposing_of_not_composing h
  | sendWith verdict => exact whenComposing_of_not_composing h
  | sendAndWait => exact whenComposing_of_not_composing h
  | begin => cases hsend
  | edit => cases hsend
  | drop => cases hsend
  | next => cases hsend

/-- Sending keeps who the session is, and composes nothing. -/
lemma identity_of_send (hsend : a.isSend) :
    (act a c).state.session.identity = c.session.identity ∧
      ∀ s, (act a c).state.phase ≠ .composing s := by
  by_cases hphase : ∃ s, c.phase = .composing s
  · obtain ⟨s, hphase⟩ := hphase
    obtain ⟨hsubmits, hafter⟩ := submits_of_act hsend hphase
    have hsession := session_of_composing hphase
    exact ⟨by rw [Session.steady_identity.submits hsubmits, Session.identity_of_transmit, hsession],
      hafter⟩
  · rw [not_exists] at hphase
    rw [act_of_not_composing hsend hphase]
    exact ⟨rfl, hphase⟩

/-- An action that sends is refused while attributes are open, and makes no call. -/
lemma act_of_refusesOpen {s : Session} (hsend : a.isSend) (hphase : c.phase = .composing s)
    (hs : s.RefusesOpen) : act a c
      = .refused (.misuse (.stillOpen s.draft.depth)) { c with phase := .idle s } := by
  have hsession := session_of_composing hphase
  cases a with
  | send => simp only [act, whenComposing_of_composing hphase, use, Run.within, hsession, hs.send]
  | sendAcked => simp only [act, whenComposing_of_composing hphase, ask, hsession, hs.sendAcked]
  | sendWith verdict =>
    simp only [act, whenComposing_of_composing hphase, listen, Run.within, hsession, hs.sendWith,
      List.append_nil]
  | sendAndWait =>
    simp only [act, whenComposing_of_composing hphase, use, Run.within, hsession, hs.sendAndWait]
  | begin => cases hsend
  | edit => cases hsend
  | drop => cases hsend
  | next => cases hsend

/-- Reading on leaves a steady view of the session as it was. -/
lemma view_of_readOn {β : Type} {view : Session → β} (hview : Session.Steady view)
    (c : Conversation) : view (readOn c).state.session = view c.session ∧
      (∀ s, (readOn c).state.phase = .composing s → c.phase = .composing s) := by
  rw [readOn]
  split
  · next a hphase =>
    have hread := Answer.view_of_next (a := a) hview rfl
    have hsession : c.session = a.session := congrArg Phase.session hphase
    rw [hsession, ← hread]
    rcases a.next with ⟨_, rest⟩ | ⟨_, rest⟩ | ⟨_, rest⟩ <;>
      exact ⟨rfl, fun s h => absurd h (Phase.reading_ne_composing rest s)⟩
  · exact ⟨rfl, fun _ h => h⟩

/-- Only an action that sends a message offers anything to the kernel. -/
lemma sent_of_act (hquiet : ∀ s, a.isSend → c.phase ≠ .composing s) :
    (act a c).state.session.sent = c.session.sent := by
  have hedit : ∀ e : Edit, Session.Keeps Session.sent (Session.compose e.run) := by
    intro e s
    have hdraft := Session.steady_sent.onDraft e.run s
    rw [Session.compose, Run.mapCause]
    rcases hrun : Session.onDraft e.run s with _ | _ | _ <;> rw [hrun] at hdraft <;> exact hdraft
  have hsend : a.isSend → (act a c).state.session.sent = c.session.sent := by
    intro hsend
    rw [act_of_not_composing hsend fun s => hquiet s hsend]
    rfl
  cases a with
  | begin type flags =>
    rw [act, state_of_use]
    refine (Session.keeps_state.bind fun _ => ?_ :
      Session.Keeps Session.sent (Session.begin type flags)) c.session
    exact Session.Keeps.bind (fun _ => rfl) fun _ => Session.steady_sent.onDraft _
  | edit e =>
    rw [act, whenComposing]
    split
    · rw [state_of_use]
      exact hedit e c.session
    · rfl
  | drop => rfl
  | send => exact hsend rfl
  | sendAcked => exact hsend rfl
  | sendWith verdict => exact hsend rfl
  | sendAndWait => exact hsend rfl
  | next => exact (view_of_readOn Session.steady_sent c).1

/-! ## What actions lead to -/

/-- What is kept of the past: how many messages were begun, and how the present one was composed. -/
structure Kept (portId : UInt32) (past : List Action) (c : Conversation) : Prop where
  identity_eq : c.session.identity = (portId, UInt32.ofNat (past.countP Action.isBegin))
  composes : ∀ s, c.phase = .composing s → ∃ earlier type flags later,
    past = earlier ++ .begin type flags :: later ∧ (∀ b ∈ later, b.isBegin = false) ∧
      s.Composes
        { type
          flags := flags ||| MessageFlag.request
          sequence := UInt32.ofNat (earlier.countP Action.isBegin)
          portId }
        (later.filterMap Action.edit?)

/-- An action that begins nothing and edits nothing is only added to the past. -/
lemma Kept.append (h : c.Kept portId past) (hbegin : a.isBegin = false)
    (hidentity : c'.session.identity = c.session.identity)
    (hphase : ∀ s, c'.phase = .composing s → c.phase = .composing s ∧ a.edit? = none) :
    c'.Kept portId (past ++ [a]) := by
  constructor
  · rw [hidentity, h.identity_eq, List.countP_append, List.countP_singleton, hbegin]
    rfl
  · intro s hs
    obtain ⟨hs, hedit⟩ := hphase s hs
    obtain ⟨earlier, type, flags, later, hpast, hlater, hcomposes⟩ := h.composes s hs
    refine ⟨earlier, type, flags, later ++ [a], by rw [hpast]; simp, ?_, ?_⟩
    · intro b hb
      rcases List.mem_append.1 hb with hb | hb
      · exact hlater b hb
      · rw [List.mem_singleton.1 hb]
        exact hbegin
    · rwa [List.filterMap_append, List.filterMap_cons, hedit, List.filterMap_nil, List.append_nil]

lemma Kept.begin {type flags : UInt16} (h : c.Kept portId past)
    (hlasts : (act (.begin type flags) c).halts = false) :
    (act (.begin type flags) c).state.Kept portId (past ++ [.begin type flags]) := by
  have hidentity := Prod.mk.inj h.identity_eq
  rw [act, state_of_use]
  rw [act, use, Run.within] at hlasts
  rcases hbegin : (Session.begin type flags : Run SessionError Session Unit) c.session
    with ⟨⟨⟩, s₁⟩ | ⟨cause, s₁⟩ | ⟨fault, s₁⟩
  · constructor
    · show (s₁.portId, s₁.nextSequence) = _
      rw [(Session.begin_eq_ok hbegin).1, List.countP_append, List.countP_singleton]
      exact Prod.ext hidentity.1 ((congrArg (· + 1) hidentity.2).trans (UInt32.ofNat_add _ 1).symm)
    · rintro s ⟨⟩
      have hcomposes := Session.composes_of_begin hbegin
      rw [Session.header, show c.session.portId = _ from hidentity.1,
        show c.session.nextSequence = _ from hidentity.2] at hcomposes
      exact ⟨past, type, flags, [], rfl, by simp, hcomposes⟩
  · exact absurd hbegin (Session.unrefused_begin type flags _ cause s₁)
  · rw [hbegin] at hlasts
    cases hlasts

lemma Kept.edit {e : Edit} (h : c.Kept portId past) (hshort : c.Short (.edit e)) :
    (act (.edit e) c).state.Kept portId (past ++ [.edit e]) := by
  by_cases hphase : ∃ s, c.phase = .composing s
  · obtain ⟨s, hphase⟩ := hphase
    have hsession := session_of_composing hphase
    rw [Short, lengthAfter, hphase] at hshort
    obtain ⟨earlier, type, flags, later, hpast, hlater, hcomposes⟩ := h.composes s hphase
    obtain ⟨d, hcomposes', hrun⟩ := hcomposes.edit e hshort
    have hstate : (act (.edit e) c).state
        = { c with phase := .composing { s with draft := d } } := by
      rw [act, whenComposing_of_composing hphase, state_of_use, hsession]
      rcases hrun with hrun | ⟨cause, hrun⟩ <;> rw [hrun] <;> rfl
    rw [hstate]
    constructor
    · rw [List.countP_append, List.countP_singleton]
      exact (hsession ▸ h.identity_eq : s.identity = _)
    · rintro s' ⟨⟩
      refine ⟨earlier, type, flags, later ++ [.edit e], by rw [hpast]; simp, ?_, ?_⟩
      · intro b hb
        rcases List.mem_append.1 hb with hb | hb
        · exact hlater b hb
        · rw [List.mem_singleton.1 hb]
          rfl
      · rw [List.filterMap_append]
        exact hcomposes'
  · rw [not_exists] at hphase
    rw [act, whenComposing_of_not_composing hphase]
    exact h.append rfl rfl fun s hs => absurd hs (hphase s)

/-- One action more. -/
lemma Kept.act (h : c.Kept portId past) (a : Action) (hshort : c.Short a)
    (hlasts : (Conversation.act a c).halts = false) :
    (Conversation.act a c).state.Kept portId (past ++ [a]) := by
  have hsend : a.isSend → a.isBegin = false →
      (Conversation.act a c).state.Kept portId (past ++ [a]) := by
    intro hsend hbegin
    obtain ⟨hidentity, hphase⟩ := identity_of_send (c := c) hsend
    exact h.append hbegin hidentity fun s hs => absurd hs (hphase s)
  cases a with
  | begin type flags => exact h.begin hlasts
  | edit e => exact h.edit hshort
  | drop => exact h.append rfl rfl fun s hs => absurd hs (Phase.idle_ne_composing _ s)
  | next =>
    obtain ⟨hidentity, hphase⟩ := view_of_readOn Session.steady_identity c
    exact h.append rfl hidentity fun s hs => ⟨hphase s hs, rfl⟩
  | send => exact hsend rfl rfl
  | sendAcked => exact hsend rfl rfl
  | sendWith verdict => exact hsend rfl rfl
  | sendAndWait => exact hsend rfl rfl

/-- Any number of actions, by induction on what is still to be done. -/
lemma Kept.follow {actions : List Action} (h : c.Kept portId past)
    (hfollow : c.follow actions = some c') : c'.Kept portId (past ++ actions) := by
  induction actions generalizing c past with
  | nil =>
    cases hfollow
    rwa [List.append_nil]
  | cons a actions ih =>
    rw [Conversation.follow] at hfollow
    split at hfollow
    · next ha =>
      have hrest := ih (h.act a ha.1 ha.2) hfollow
      rwa [List.append_assoc] at hrest
    · cases hfollow

/-! ## What is sent -/

/-- What a conversation does with the message that its session composes, if the message was begun
with this header, up to its length, and edited like this since. -/
structure SendsStamped (c : Conversation) (s : Session) (h : Header) (edits : List Edit) :
    Prop where
  /-- The length in the header is the length of the message. -/
  length_eq : h.length.toNat = s.draft.length
  /-- The number of the message can be read while it is composed. -/
  sequence_eq : (Draft.sequence : Run SessionError Draft UInt32) s.draft = .ok h.sequence s.draft
  /-- The message is what the edits made of its header. -/
  bytes_eq : ∃ tape, s.draft.bytes
    = (Outline.edited tape edits { bytes := Header.encode { h with length := 0 } }).bytes
  /-- With attributes open, sending is refused and no call is made. -/
  refused : ∀ a : Action, a.isSend → 0 < s.draft.depth →
    act a c = .refused (.misuse (.stillOpen s.draft.depth)) { c with phase := .idle s }
  /-- With none open, what is offered to the kernel is the message with its header completed, as
  often as the call is made, and nothing else. -/
  sent : ∀ a : Action, a.isSend → s.draft.depth = 0 → ∃ count message, 0 < count ∧
    (act a c).state.session.sent = s.sent ++ List.replicate count message ∧
    message = h.encode ++ s.draft.bytes.drop Header.size ∧ message.length = s.draft.length

lemma sendsStamped_of_composes {s : Session} (h : Header) {edits : List Edit}
    (hphase : c.phase = .composing s) (hcomposes : s.Composes { h with length := 0 } edits) :
    c.SendsStamped s { h with length := UInt32.ofNat s.draft.length } edits := by
  obtain ⟨tape, hstages, hshort⟩ := id hcomposes
  have hbytes := hcomposes.bytes_eq
  refine ⟨UInt32.toNat_ofNat_of_lt' hshort, hcomposes.sequence_eq, ⟨tape, hstages.bytes_eq⟩, ?_, ?_⟩
  · intro a hsend hdepth
    exact act_of_refusesOpen hsend hphase (Session.refusesOpen_of_depth_pos hdepth)
  · intro a hsend hdepth
    obtain ⟨hsubmits, -⟩ := submits_of_act hsend hphase
    have hmarks : s.draft.marks = [] := List.eq_nil_of_length_eq_zero hdepth
    refine ⟨_, _, RetryPolicy.attempts_pos _ _ _,
      Session.sent_of_staged hstages.fits hmarks hbytes hsubmits, rfl, ?_⟩
    have hlength := congrArg List.length hbytes
    rw [List.length_append, Header.length_encode] at hlength ⊢
    rw [← hlength]
    exact Arena.length_data hstages.fits

/-- **What a session puts on the wire.**  Take a session that was just opened, and any actions that
lead somewhere.  From there only sending a message that is being composed offers anything to the
kernel.  The message was begun by the last action that began one; its number says how many were
begun before, and its port id is that of the session. -/
theorem sent_stamped {channel : Channel} {options : SessionOptions} {s₀ : Session}
    (hopened : Session.ofChannel? channel portId options = some s₀)
    (hfollow : follow { phase := .idle s₀ } past = some c) :
    (∀ a : Action, (∀ s, a.isSend → c.phase ≠ .composing s) →
      (act a c).state.session.sent = c.session.sent) ∧
    ∀ s, c.phase = .composing s → ∃ earlier type flags later,
      past = earlier ++ .begin type flags :: later ∧ (∀ b ∈ later, b.isBegin = false) ∧
        c.SendsStamped s
          { length := UInt32.ofNat s.draft.length
            type
            flags := flags ||| MessageFlag.request
            sequence := UInt32.ofNat (earlier.countP Action.isBegin)
            portId }
          (later.filterMap Action.edit?) := by
  refine ⟨fun a => sent_of_act, fun s hphase => ?_⟩
  have hstart : Kept portId [] { phase := .idle s₀ } := by
    rw [Session.ofChannel?, Option.map_eq_some_iff] at hopened
    obtain ⟨arena, -, rfl⟩ := hopened
    exact ⟨rfl, fun s hs => absurd hs (Phase.idle_ne_composing _ s)⟩
  obtain ⟨earlier, type, flags, later, hpast, hlater, hcomposes⟩ :=
    (hstart.follow hfollow).composes s hphase
  exact ⟨earlier, type, flags, later, hpast, hlater,
    sendsStamped_of_composes { type, flags := _, sequence := _, portId } hphase hcomposes⟩

/-- A message is given up, and in another one closing is refused before an attribute is added. -/
theorem sent_stamped_of_dropped :
    let s₀ : Session := { portId := 7, draft.arena.storage := List.replicate 16 0 }
    let past : List Action := [.begin 16 5, .edit (.append [1, 2, 3]), .drop, .begin 20 0x500,
      .edit .closeAttribute, .edit (.addAttribute 1 [0x2A])]
    Session.ofChannel? {} 7 {} = some s₀ ∧ ∃ c s, follow { phase := .idle s₀ } past = some c ∧
      c.phase = .composing s ∧ s.draft.depth = 0 ∧ ∃ earlier type flags later,
        past = earlier ++ .begin type flags :: later ∧ (∀ b ∈ later, b.isBegin = false) ∧
          c.SendsStamped s
            { length := UInt32.ofNat s.draft.length
              type
              flags := flags ||| MessageFlag.request
              sequence := UInt32.ofNat (earlier.countP Action.isBegin)
              portId := 7 }
            (later.filterMap Action.edit?) := by
  intro s₀ past
  have hopened : Session.ofChannel? {} 7 {} = some s₀ := rfl
  have hcomposing : (follow { phase := .idle s₀ } past).any (fun c => match c.phase with
      | .composing s => s.draft.depth == 0
      | _ => false) = true := by
    decide +kernel
  obtain ⟨c, hfollow, hdepth⟩ := (Option.any_eq_true _ _).1 hcomposing
  rcases hphase : c.phase with s | s | a <;> rw [hphase] at hdepth
  · cases hdepth
  · exact ⟨hopened, c, s, hfollow, hphase, by simpa using hdepth,
      (sent_stamped hopened hfollow).2 s hphase⟩
  · cases hdepth

end Conversation

end Rtnetlink
