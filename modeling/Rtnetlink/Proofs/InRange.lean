import Mathlib.Algebra.Group.Nat.Defs
import Rtnetlink.Proofs.Independence
import Rtnetlink.Proofs.Editing
import Rtnetlink.Proofs.Slices
import Rtnetlink.Proofs.Storage

/-!
# Nothing is reached out of range

Whatever is done with a session, and whatever the kernel answers, no step touches bytes outside the
storage, the message, the batch or a record in it.  The bounds are kept by different steps:
composing keeps the message in the storage and its open attributes in the message, receiving keeps
the batch in the storage whatever length the call reports, and reading an answer keeps its place in
the batch.

* `Conversation.InRange`: what is kept while a session is used;
* `Conversation.act_inRange`: one action more, and how it may halt;
* `Conversation.never_out_of_range`: no sequence of actions reaches anything out of range, and what
  is decoded lies in the bytes that it is decoded from.
-/

namespace Rtnetlink

open LittleEndian

/-! ## Runs in range -/

/-- A run that reaches nothing out of range: it ends with a value as stated, or refused in a state
as stated.  It halts only because a call is retried for ever or, where there is no room, because
storage would get too large. -/
def Outcome.InRange {ε σ α : Type} (room : Prop) (R : α → σ → Prop) (Q : σ → Prop) :
    Outcome ε σ α → Prop
  | .ok value s => R value s
  | .refused _ s => Q s
  | .halted fault _ => fault = .endless ∨ fault = .tooLarge ∧ ¬ room

namespace Outcome.InRange

variable {ε δ σ τ α β : Type} {room room' : Prop} {R : α → σ → Prop} {R' : β → σ → Prop}
  {Q : σ → Prop}

lemma bind {first : Run ε σ α} {next : α → Run ε σ β} {s : σ}
    (h : (first s).InRange room' R Q) (hroom : room → room')
    (h' : ∀ value t, R value t → (next value t).InRange room R' Q) :
    ((first >>= next) s).InRange room R' Q := by
  rw [Run.bind_apply]
  generalize first s = o at h
  cases o with
  | ok value t => exact h' value t h
  | refused => exact h
  | halted => exact h.imp_right fun h => ⟨h.1, fun hr => h.2 (hroom hr)⟩

/-- A run on a part of the state, with what its end says of the whole. -/
lemma within {S : α → τ → Prop} {P : τ → Prop} {part : σ → τ} {put : τ → σ → σ}
    {run : Run ε τ α} {s : σ} (h : (run (part s)).InRange room S P)
    (hok : ∀ value t, S value t → R value (put t s)) (hrefused : ∀ t, P t → Q (put t s)) :
    (Run.within part put run s).InRange room R Q := by
  rw [Run.within]
  generalize run (part s) = o at h
  cases o with
  | ok value t => exact hok value t h
  | refused cause t => exact hrefused t h
  | halted => exact h

/-- Whatever the run ends with, and whatever it maintains. -/
lemma of_maintains {P : σ → Prop} {run : Run ε σ α} {s : σ} (h : (run s).InRange room R Q)
    (hrun : Run.Maintains P run) (hs : P s) : (run s).InRange room (fun _ => P) P := by
  have hend := hrun s hs
  generalize run s = o at h hend
  cases o with
  | ok => exact hend
  | refused => exact hend
  | halted => exact h

end Outcome.InRange

/-! ## Composing and sending -/

lemma Arena.eq_tooLarge_of_reset {ε : Type} {a a' : Arena} {room : Nat} {fault : Fault}
    (h : (reset room : Run ε Arena Unit) a = .halted fault a') : fault = .tooLarge := by
  rw [reset, Run.bind_of_ok (Run.modify_apply _ _), reserve] at h
  dsimp only at h
  split at h
  · cases h
  · split at h
    · cases h
      rfl
    · cases h

namespace Session

variable {s : Session}

/-- The session can be composed in without leaving its storage. -/
structure Composing (s : Session) : Prop where
  sized : s.Sized
  draft : s.draft.InRange

lemma onDraft_of_halted {ε α : Type} {run : Run ε Draft α} {fault : Fault} {d : Draft}
    (h : run s.draft = .halted fault d) :
    onDraft run s = .halted fault { s with draft := d } := by
  rw [onDraft, Run.within, h]

/-- A message is begun where there is room for it. -/
lemma begin_inRange (hs : s.Sized) (type flags : UInt16) :
    ((begin type flags : Run SessionError Session Unit) s).InRange s.CanBegin
      (fun _ => Composing) fun _ => False := by
  by_cases hroom : s.CanBegin
  · obtain ⟨d, hbegin, -⟩ := begin_laid (ε := SessionError) hroom type flags
    have hsized := maintains_begin (ε := SessionError) type flags s hs
    obtain ⟨-, hfits, houtline⟩ := begin_eq_ok hbegin
    rw [hbegin] at hsized ⊢
    refine ⟨hsized, hfits, ?_⟩
    rw [houtline]
    exact (Outline.intact_header _).toNested
  · -- the reserve for sending is more than storage can grow to
    have hlarge : max s.options.sendBufferSize Header.size = s.options.sendBufferSize := by
      simp only [CanBegin, not_or, Size.greatest, Header.size] at hroom ⊢
      omega
    have hreserve : (Arena.reserve s.options.sendBufferSize : Run SessionError Arena Unit) s.blank
        = .halted .tooLarge s.blank := by
      refine Arena.reserve_of_not_canHold ?_ ?_
      · simpa only [blank, Nat.zero_add] using hs.2
      · rintro ⟨-, hhold⟩
        rw [blank, Nat.zero_add] at hhold
        exact hroom hhold
    have hreset : (Arena.reset s.options.sendBufferSize : Run SessionError Arena Unit)
        s.draft.arena = .halted .tooLarge s.blank :=
      (Run.bind_of_ok (Run.modify_apply _ _) _).trans hreserve
    have hstart : (Draft.start { s.header type flags with length := 0 } s.options.sendBufferSize :
        Run SessionError Draft Unit) s.draft
        = .halted .tooLarge { s.draft with arena := s.blank } := by
      rw [Draft.start, hlarge]
      exact Run.bind_of_halted (Draft.onArena_of_halted hreset) _
    have hbegin : (begin type flags : Run SessionError Session Unit) s
        = .halted .tooLarge { s with
          nextSequence := s.nextSequence + 1, draft.arena := s.blank } := by
      rw [begin, Run.bind_of_ok (Run.state_apply s), Run.bind_of_ok (Run.modify_apply _ _)]
      exact onDraft_of_halted hstart
    rw [hbegin]
    exact .inr ⟨rfl, hroom⟩

/-- An edit leaves a message in range, and stops only where there is no room for it. -/
lemma Composing.edit {e : Edit} (hs : s.Composing)
    (hsmall : (e.effect s.draft.arena.byteAt s.draft.outline).2.length ≤ Size.greatest) :
    (compose e.run s).InRange
      (s.draft.arena.CanHold (e.effect s.draft.arena.byteAt s.draft.outline).2.length)
      (fun _ => Composing) Composing := by
  have hsized := maintains_compose e.maintains_run s hs.sized
  rcases e.run_follows_or_stops hs.draft.stages hsmall with hfollows | ⟨hshort, d, hstops⟩
  · obtain ⟨d, ⟨hd, -⟩, hrun⟩ := compose_of_follows hfollows
    rw [hrun] at hsized ⊢
    generalize (e.effect s.draft.arena.byteAt s.draft.outline).1 = refusal at hsized ⊢
    cases refusal <;> exact ⟨hsized, hd.inRange⟩
  · have hrun : compose e.run s = .halted .tooLarge { s with draft := d } := by
      rw [compose, Run.mapCause, onDraft_of_halted hstops]
    rw [hrun]
    exact .inr ⟨rfl, hshort⟩

/-- The number of the message can be read while it is composed. -/
lemma Composing.sequence_eq (hs : s.Composing) : ∃ number,
    (Draft.sequence : Run SessionError Draft UInt32) s.draft = .ok number s.draft := by
  have hheader : 16 ≤ s.draft.bytes.length :=
    Nat.le_trans hs.draft.header_le (Nat.le_of_eq (Arena.length_data hs.draft.fits).symm)
  refine ⟨toU32 (s.draft.bytes.drop 8), ?_⟩
  rw [Draft.sequence, Run.read?_eq_ok, if_neg (by omega)]
  exact ⟨rfl, rfl⟩

lemma deliver_inRange (s : Session) :
    (deliver s).InRange True (fun _ t => t = { s with channel := t.channel }) fun _ => True := by
  rw [deliver]
  rcases s.channel.send s.options.retry s.draft.bytes with ⟨_ | ⟨⟨⟩⟩, channel⟩
  · trivial
  · rfl

/-- Sending reads the whole message and writes its length over the start of its header; it does not
halt. -/
lemma Composing.transmit (hs : s.Composing) :
    (Session.transmit s).InRange True
      (fun _ t => t.draft.arena.capacity = s.draft.arena.capacity ∧ t.options = s.options)
      fun _ => True := by
  obtain ⟨d, hstamp, -, hcapacity⟩ :=
    Draft.stampLength_eq_ok (ε := SessionError) hs.draft.fits hs.draft.header_le
  rw [Session.transmit, Run.bind_of_ok (Run.state_apply s)]
  split
  · trivial
  · rw [Run.bind_of_ok (onDraft_eq_ok.2 ⟨d, hstamp, rfl⟩), Run.bind_of_ok (Run.state_apply _)]
    rcases Header.decode d.bytes with cause | header
    · trivial
    · refine (deliver_inRange { s with draft := d }).bind id fun _ t ht => ?_
      rw [ht]
      exact ⟨hcapacity, rfl⟩

/-- So does turning to the answer, where there is room to receive it. -/
lemma clearForReceiving_inRange (s : Session) :
    ((clearForReceiving : Run SessionError Session Unit) s).InRange s.CanReceive
      (fun _ _ => True) fun _ => True := by
  by_cases hroom : s.CanReceive
  · obtain ⟨a, hreset, -⟩ := Arena.reset_of_canHold (ε := SessionError) hroom
    have hclear : (clearForReceiving : Run SessionError Session Unit) s
        = .ok () { s with draft.arena := a } :=
      onDraft_eq_ok.2 ⟨_, Draft.onArena_eq_ok.2 ⟨a, hreset, rfl⟩, rfl⟩
    rw [hclear]
    trivial
  · rw [clearForReceiving, Run.bind_of_ok (Run.state_apply s)]
    rcases hreset : (Arena.reset s.options.receiveBufferSize : Run SessionError Arena Unit)
      s.draft.arena with ⟨⟨⟩, a⟩ | ⟨cause, a⟩ | ⟨fault, a⟩
    · rw [onDraft_eq_ok.2 ⟨_, Draft.onArena_eq_ok.2 ⟨a, hreset, rfl⟩, rfl⟩]
      trivial
    · exact absurd hreset (Arena.unrefused_reset _ s.draft.arena cause a)
    · rw [onDraft_of_halted (Draft.onArena_of_halted hreset)]
      exact .inr ⟨Arena.eq_tooLarge_of_reset hreset, hroom⟩

end Session

/-! ## Receiving and reading -/

namespace Session

variable {s : Session}

/-- The session is reading batches: its storage has the size it will have for the next one. -/
structure Receiving (s : Session) : Prop where
  sized : s.Sized
  reserved : s.Reserved

/-- Only what is in the storage, and how much of it is committed, changes while batches are
received. -/
lemma Receiving.of_capacity_eq (hs : s.Receiving) {channel : Channel} {arena : Arena}
    (hcapacity : arena.capacity = s.draft.arena.capacity) :
    Receiving { s with channel, draft.arena := arena } where
  sized := ⟨Nat.le_trans (Nat.le_of_eq hcapacity) hs.sized.1, hs.sized.2⟩
  reserved := Arena.reset_again hs.reserved hcapacity

/-- A batch is received into the storage and is no longer than that, whatever length the call
reports. -/
lemma Receiving.receive (hs : s.Receiving) :
    (Session.receive s).InRange True
      (fun length t => t.Receiving ∧ length ≤ t.draft.arena.data.length) Receiving := by
  have hcleared : Receiving { s with draft.arena.committed := 0 } := hs.of_capacity_eq rfl
  rw [Session.receive, Run.bind_of_ok (clearForReceiving_of_reserved hs.reserved)]
  generalize hzero : ({ s with draft.arena.committed := 0 } : Session) = t at hcleared
  have hcommitted : t.draft.arena.committed = 0 := by rw [← hzero]
  have hfetch : (fetch t).InRange True
      (fun _ u => u.Receiving ∧ u.draft.arena.committed = 0) Receiving := by
    rw [fetch]
    rcases t.channel.receive t.options.retry t.draft.arena.capacity with
      _ | ⟨⟨bytes, count, fromKernel⟩ | errno, channel⟩
    · exact .inl rfl
    · exact ⟨hcleared.of_capacity_eq (Arena.capacity_fill _ _), hcommitted⟩
    · exact hcleared.of_capacity_eq rfl
  refine hfetch.bind id ?_
  rintro ⟨count, fromKernel⟩ u ⟨hu, hzero⟩
  dsimp only
  split
  · exact hu
  · split
    · exact hu
    · rw [Run.bind_of_ok (Run.state_apply u)]
      -- no more is committed than the storage holds
      have hroom : u.draft.arena.committed + min count u.draft.arena.capacity
          ≤ u.draft.arena.capacity := by omega
      have hcommit := Arena.commit_eq_ok (ε := SessionError)
        (Nat.le_trans hroom hu.sized.1) hroom
      rw [Run.bind_of_ok (onDraft_eq_ok.2 ⟨_, Draft.onArena_eq_ok.2 ⟨_, hcommit, rfl⟩, rfl⟩)]
      refine ⟨hu.of_capacity_eq rfl, ?_⟩
      rw [Arena.length_data hroom, hzero]
      exact Nat.le_add_left ..

end Session

namespace Answer

/-- What is left to read of an answer: its place lies in the batch or in the padding of the last
record, and the batch in the storage. -/
structure InRange (a : Answer) : Prop where
  receiving : a.session.Receiving
  offset_le : a.offset ≤ a.length + 3
  length_le : a.finished = false → a.length ≤ a.session.draft.arena.data.length

variable {a : Answer}

/-- A record that is decoded lies in its bytes, so what follows it starts in them or in its
padding. -/
lemma alignedLength_le {bytes : List UInt8} {record : Record}
    (h : Record.decode bytes = .ok record) : record.alignedLength ≤ bytes.length + 3 := by
  unfold Record.decode at h
  split at h
  · cases h
  · next header _ =>
    dsimp only at h
    split at h
    · cases h
    · split at h
      · cases h
      · cases h
        have halign := align_lt header.length.toNat
        simp only [Record.alignedLength]
        omega

lemma InRange.finished (h : a.InRange) : InRange { a with finished := true } :=
  ⟨h.receiving, h.offset_le, fun h => nomatch h⟩

/-- A step that stays in the batch, or goes on to the next one.  It halts only because a receive
call is retried for ever. -/
def Step.InRange : Step → Prop
  | .yield _ rest | .fail _ rest | .finish rest | .advance rest => rest.InRange
  | .halt fault _ => fault = .endless

lemma InRange.judge (h : a.InRange) (record : Record) : (judge record a).InRange := by
  rw [Answer.judge]
  split
  · exact h.finished
  · split
    · exact h.finished
    · exact h
  · exact h

lemma InRange.refill (h : a.InRange) : a.refill.InRange := by
  have hreceive := h.receiving.receive
  rw [Answer.refill]
  generalize Session.receive a.session = o at hreceive
  rcases o with ⟨length, t⟩ | ⟨cause, t⟩ | ⟨fault, t⟩
  · exact ⟨hreceive.1, Nat.zero_le _, fun _ => hreceive.2⟩
  · refine ⟨hreceive, h.offset_le, ?_⟩
    rintro ⟨⟩
  · obtain rfl | ⟨-, hroom⟩ := hreceive
    · rfl
    · exact absurd trivial hroom

lemma InRange.scan (h : a.InRange) (hfinished : a.finished = false)
    (hinside : a.offset < a.length) : a.scan.InRange := by
  have hlength := h.length_le hfinished
  have hbatch : ((a.session.draft.arena.data.take a.length).drop a.offset).length
      = a.length - a.offset := by
    rw [List.length_drop, List.length_take, Nat.min_eq_left hlength]
  have hend : InRange { a with offset := a.length } :=
    ⟨h.receiving, Nat.le_add_right .., h.length_le⟩
  rw [Answer.scan, if_neg (Nat.not_lt.2 hlength)]
  split
  · exact hend
  · next record hdecode =>
    have hrecord := alignedLength_le hdecode
    have hnext : a.offset + record.alignedLength ≤ a.length + 3 := by omega
    split
    · exact hend
    · split
      · exact ⟨h.receiving, hnext, h.length_le⟩
      · have hrest : InRange
            { a with offset := a.offset + record.alignedLength, found := true } :=
          ⟨h.receiving, hnext, h.length_le⟩
        exact hrest.judge record

lemma InRange.step (h : a.InRange) : a.step.InRange := by
  rw [Answer.step]
  by_cases hfinished : a.finished
  · rw [if_pos hfinished]
    exact h
  · rw [if_neg hfinished]
    by_cases hinside : a.length ≤ a.offset
    · rw [if_pos hinside]
      split
      · exact h.finished
      · exact h.refill
    · rw [if_neg hinside]
      exact h.scan (by simpa using hfinished) (Nat.lt_of_not_le hinside)

/-- Reading on, by induction on the steps of the call. -/
lemma InRange.next (h : a.InRange) : a.next.InRange True (fun _ => InRange) InRange := by
  fun_induction Answer.next a with
  | case1 a response rest hstep =>
    have hrest := h.step
    rwa [hstep] at hrest
  | case2 a cause rest hstep =>
    have hrest := h.step
    rwa [hstep] at hrest
  | case3 a rest hstep =>
    have hrest := h.step
    rwa [hstep] at hrest
  | case4 a fault rest hstep =>
    have hrest := h.step
    rw [hstep] at hrest
    exact .inl hrest
  | case5 a rest hstep ih =>
    have hrest := h.step
    rw [hstep] at hrest
    exact ih hrest

/-- Hearing the whole answer, by induction on the responses that are read. -/
lemma InRange.forEach {β : Type} (handler : β → Response → β × Option String) (h : a.InRange)
    (b : β) : (a.forEach handler b).InRange True (fun _ p => p.1.InRange) fun p => p.1.InRange := by
  fun_induction Answer.forEach handler a b with
  | case1 a b rest hnext =>
    have hrest := h.next
    rwa [hnext] at hrest
  | case2 a b cause rest hnext =>
    have hrest := h.next
    rwa [hnext] at hrest
  | case3 a b fault rest hnext =>
    have hrest := h.next
    rwa [hnext] at hrest
  | case4 a b response rest hnext b' hhandler ih =>
    have hrest := h.next
    rw [hnext] at hrest
    exact ih hrest
  | case5 a b response rest hnext b' text hhandler =>
    have hrest := h.next
    rwa [hnext] at hrest

end Answer

namespace Session

variable {s : Session}

/-- Once a request has been sent, its answer is in range. -/
lemma inRange_of_sendAcked {a : Answer} {s' : Session} (hs : s.Sized)
    (h : sendAcked s = .ok a s') : a.InRange := by
  have hsized := maintains_sendAcked s hs
  obtain ⟨ha, -, hreserved, -⟩ := sendAcked_eq_ok h
  rw [h] at hsized
  rw [ha]
  exact ⟨⟨hsized, hreserved⟩, Nat.zero_le _, fun _ => Nat.zero_le _⟩

/-- A message is sent and its answer turned to, where there is room to receive it. -/
lemma Composing.sendAcked (hs : s.Composing) :
    (Session.sendAcked s).InRange s.CanReceive (fun a _ => a.InRange) Sized := by
  have hends : (Session.sendAcked s).InRange s.CanReceive (fun _ _ => True) fun _ => True := by
    refine hs.transmit.bind (fun _ => trivial) fun _ t ⟨hcapacity, hoptions⟩ => ?_
    have hroom : s.CanReceive → t.CanReceive := by
      rw [CanReceive, CanReceive, hoptions]
      exact fun h => h.mono (Nat.le_refl _) (Nat.le_of_eq hcapacity.symm)
    exact (clearForReceiving_inRange t).bind hroom fun _ _ _ => trivial
  have hsized := maintains_sendAcked s hs.sized
  rcases hacked : Session.sendAcked s with ⟨a, t⟩ | ⟨cause, t⟩ | ⟨fault, t⟩ <;>
    rw [hacked] at hends hsized
  · exact inRange_of_sendAcked hs.sized hacked
  · exact hsized
  · exact hends

/-- The whole answer is heard. -/
lemma Composing.sendWith {β : Type} (handler : β → Response → β × Option String)
    (hs : s.Composing) (b : β) :
    (Session.sendWith handler (s, b)).InRange s.CanReceive (fun _ p => p.1.Sized)
      fun p => p.1.Sized := by
  have hacked := hs.sendAcked
  rw [Session.sendWith]
  generalize Session.sendAcked s = o at hacked
  rcases o with ⟨a, t⟩ | ⟨cause, t⟩ | ⟨fault, t⟩
  · have hheard := Answer.InRange.forEach handler hacked b
    dsimp only
    generalize a.forEach handler b = o at hheard
    rcases o with ⟨⟨⟩, rest, b'⟩ | ⟨cause, rest, b'⟩ | ⟨fault, rest, b'⟩
    · exact hheard.receiving.sized
    · exact hheard.receiving.sized
    · exact hheard.imp_right fun h => absurd trivial h.2
  · exact hacked
  · exact hacked

lemma Composing.sendAndWait (hs : s.Composing) :
    (Session.sendAndWait s).InRange s.CanReceive (fun _ => Sized) Sized := by
  have hwith := hs.sendWith (fun b _ => (b, none)) ()
  rw [Session.sendAndWait, Run.within]
  generalize Session.sendWith (fun b _ => (b, none)) (s, ()) = o at hwith
  rcases o with ⟨⟨⟩, p⟩ | ⟨cause, p⟩ | ⟨fault, p⟩ <;> exact hwith

/-- A message is sent, and no answer awaited. -/
lemma Composing.send (hs : s.Composing) :
    (Session.send s).InRange True (fun _ => Sized) Sized := by
  have htransmit := hs.transmit.of_maintains maintains_transmit hs.sized
  exact htransmit.bind id fun _ _ ht => ht

end Session

/-! ## Sessions in use -/

/-- What the session is used for stays in range. -/
def Phase.InRange : Phase → Prop
  | .idle s => s.Sized
  | .composing s => s.Composing
  | .reading a => a.InRange

lemma Phase.InRange.sized {phase : Phase} (h : phase.InRange) : phase.session.Sized := by
  cases phase with
  | idle => exact h
  | composing => exact Session.Composing.sized h
  | reading => exact (Answer.InRange.receiving h).sized

namespace Conversation

variable {c c' : Conversation} {s₀ : Session}

/-- The run ends in range, or has no room. -/
abbrev EndsInRange (room : Prop) (outcome : Outcome SessionError Conversation Unit) : Prop :=
  outcome.InRange room (fun _ c => c.phase.InRange) fun c => c.phase.InRange

lemma use_inRange {room : Prop} {phase : Session → Phase} {run : Run SessionError Session Unit}
    {R : Unit → Session → Prop} {Q : Session → Prop} (h : (run c.session).InRange room R Q)
    (hok : ∀ t, R () t → (phase t).InRange) (hrefused : ∀ t, Q t → (phase t).InRange) :
    EndsInRange room (use phase run c) :=
  h.within (fun _ => hok) hrefused

lemma whenComposing_inRange {room : Prop} {run : Run SessionError Conversation Unit}
    (h : c.phase.InRange) (hrun : c.session.Composing → EndsInRange room (run c)) :
    EndsInRange room (whenComposing run c) := by
  obtain ⟨phase, heard⟩ := c
  cases phase with
  | idle => exact h
  | composing s => exact hrun h
  | reading => exact h

lemma ask_inRange (hs : c.session.Composing) : EndsInRange c.session.CanReceive (ask c) := by
  have hacked := hs.sendAcked
  rw [ask]
  generalize Session.sendAcked c.session = o at hacked
  rcases o with ⟨a, t⟩ | ⟨cause, t⟩ | ⟨fault, t⟩ <;> exact hacked

lemma listen_inRange (hs : c.session.Composing) (verdict : List Response → Option String) :
    EndsInRange c.session.CanReceive (listen verdict c) := by
  have hwith := hs.sendWith (note verdict) []
  rw [listen, Run.within]
  generalize Session.sendWith (note verdict) (c.session, []) = o at hwith
  rcases o with ⟨⟨⟩, p⟩ | ⟨cause, p⟩ | ⟨fault, p⟩ <;> exact hwith

lemma readOn_inRange (h : c.phase.InRange) : EndsInRange True (readOn c) := by
  obtain ⟨phase, heard⟩ := c
  cases phase with
  | idle => exact h
  | composing => exact h
  | reading a =>
    have hnext := Answer.InRange.next h
    rw [readOn]
    dsimp only
    generalize a.next = o at hnext
    rcases o with ⟨response, rest⟩ | ⟨cause, rest⟩ | ⟨fault, rest⟩ <;> exact hnext

lemma edit_inRange {e : Edit} (h : c.phase.InRange)
    (hsmall : c.lengthAfter (.edit e) ≤ Size.greatest) :
    EndsInRange (c.HasRoom (.edit e)) (act (.edit e) c) := by
  obtain ⟨phase, heard⟩ := c
  cases phase with
  | idle => exact h
  | composing s =>
    have hedit := Session.Composing.edit h hsmall
    exact use_inRange hedit (fun _ ht => ht) fun _ ht => ht
  | reading => exact h

/-- **One action.**  From a use in range it leads to one in range, and it halts only because a
receive call is retried for ever, or because storage would have to get too large. -/
theorem act_inRange {a : Action} (h : c.phase.InRange)
    (hsmall : c.lengthAfter a ≤ Size.greatest) : EndsInRange (c.HasRoom a) (act a c) := by
  cases a with
  | begin type flags =>
    exact use_inRange (Session.begin_inRange h.sized type flags) (fun _ ht => ht)
      fun _ => False.elim
  | edit e => exact edit_inRange h hsmall
  | drop => exact h.sized
  | send =>
    exact whenComposing_inRange h fun hs => use_inRange hs.send (fun _ ht => ht) fun _ ht => ht
  | sendAcked => exact whenComposing_inRange h ask_inRange
  | sendWith verdict =>
    exact whenComposing_inRange h fun hs => listen_inRange hs verdict
  | sendAndWait =>
    exact whenComposing_inRange h fun hs =>
      use_inRange hs.sendAndWait (fun _ ht => ht) fun _ ht => ht
  | next => exact readOn_inRange h

/-- Where actions lead a new session, each of them made or refused.  Messages may be as long as
storage can be. -/
inductive Reachable (s₀ : Session) : Conversation → Prop where
  /-- Nothing has been done yet. -/
  | start : Reachable s₀ { phase := .idle s₀ }
  /-- One action more. -/
  | act {c : Conversation} {a : Action} (before : Reachable s₀ c)
    (hsmall : c.lengthAfter a ≤ Size.greatest) (hlasts : (act a c).halts = false) :
    Reachable s₀ (act a c).state

/-- Messages that their length field can tell are among them. -/
lemma Reachable.follow {actions : List Action} (h : Reachable s₀ c)
    (hfollow : c.follow actions = some c') : Reachable s₀ c' := by
  induction actions generalizing c with
  | nil =>
    cases hfollow
    exact h
  | cons a actions ih =>
    rw [Conversation.follow] at hfollow
    split at hfollow
    · next ha =>
      have hsmall : c.lengthAfter a ≤ Size.greatest :=
        Nat.le_trans (Nat.le_of_lt ha.1) (by decide)
      exact ih (h.act hsmall ha.2) hfollow
    · cases hfollow

/-- By induction on the actions. -/
lemma Reachable.inRange (hs₀ : s₀.Sized) (h : Reachable s₀ c) : c.phase.InRange := by
  induction h with
  | start => exact hs₀
  | @act c a _ hsmall hlasts ih =>
    have hact := act_inRange ih hsmall
    generalize Conversation.act a c = o at hact hlasts
    cases o with
    | ok => exact hact
    | refused => exact hact
    | halted => cases hlasts

/-- **Nothing is ever reached out of range.**  Take any channel, whatever it answers, and any
options whose reserve for sending storage can hold.  A session is opened on it, and wherever actions
lead from there, the next one stays in the storage, the message, the batch and its records.  It
halts only because a receive call is retried for ever, or because storage would have to grow too
large for what is asked.  While a message is composed, its number can be read and no more attributes
are open than there are places for; and whatever is decoded is decoded from slices of its bytes. -/
theorem never_out_of_range (channel : Channel) (portId : UInt32) {options : SessionOptions}
    (hoptions : options.sendBufferSize ≤ Size.greatest) :
    ∃ s₀, Session.ofChannel? channel portId options = some s₀ ∧
      (∀ c, Reachable s₀ c →
        (∀ a : Action, c.lengthAfter a ≤ Size.greatest → ∀ fault c', act a c = .halted fault c' →
          fault = .endless ∨ fault = .tooLarge ∧ ¬ c.HasRoom a) ∧
        ∀ s, c.phase = .composing s → s.draft.depth ≤ Draft.maxDepth ∧ ∃ number,
          (Draft.sequence : Run SessionError Draft UInt32) s.draft = .ok number s.draft) ∧
      ∀ bytes : List UInt8, bytes.length ≤ Size.greatest → SlicesInRange bytes := by
  obtain ⟨s₀, hopened⟩ : ∃ s₀, Session.ofChannel? channel portId options = some s₀ := by
    rw [Session.ofChannel?, Arena.ofCapacity?, if_neg (Nat.not_lt.2 hoptions)]
    exact ⟨_, rfl⟩
  refine ⟨s₀, hopened, fun c hreach => ?_, fun bytes => slicesInRange⟩
  have hphase := hreach.inRange (Session.sized_of_ofChannel? hopened)
  refine ⟨fun a hsmall fault c' hhalted => ?_, fun s hs => ?_⟩
  · have hact := act_inRange hphase hsmall
    rw [hhalted] at hact
    exact hact
  · rw [hs] at hphase
    exact ⟨hphase.draft.nested.depth_le, hphase.sequence_eq⟩

/-- A session that reserves nothing for sending and four bytes for receiving reads a batch that
claims to be longer than any storage. -/
theorem never_out_of_range_of_claimed :
    let channel : Channel :=
      { deliveries := [.batch [4, 0, 0, 0] (some (2 ^ 63)) true, .batch [] (some 0) true] }
    let options : SessionOptions := { sendBufferSize := 0, receiveBufferSize := 4 }
    let past : List Action :=
      [.begin 16 5, .edit (.openAttribute 1), .edit (.append [1]), .edit (.closeFrom 0), .sendAcked]
    options.sendBufferSize ≤ Size.greatest ∧ ∃ s₀ c,
      Session.ofChannel? channel 7 options = some s₀ ∧
      follow { phase := .idle s₀ } past = some c ∧ c.lengthAfter .next ≤ Size.greatest ∧
      ∀ fault c', act .next c = .halted fault c' →
        fault = .endless ∨ fault = .tooLarge ∧ ¬ c.HasRoom .next := by
  intro channel options past
  have hoptions : options.sendBufferSize ≤ Size.greatest := by decide
  obtain ⟨s₀, hopened, hreach, -⟩ := never_out_of_range channel 7 hoptions
  have hfollows : ((Session.ofChannel? channel 7 options).bind fun s =>
      follow { phase := .idle s } past).isSome = true := by
    decide +kernel
  rw [hopened, Option.bind_some] at hfollows
  obtain ⟨c, hfollow⟩ := Option.isSome_iff_exists.1 hfollows
  have hsmall : c.lengthAfter .next ≤ Size.greatest := Nat.zero_le _
  exact ⟨hoptions, s₀, c, hopened, hfollow, hsmall,
    (hreach c (Reachable.start.follow hfollow)).1 .next hsmall⟩

end Conversation

end Rtnetlink
