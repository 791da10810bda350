import Rtnetlink.Proofs.Composing
import Rtnetlink.Proofs.Correlation

/-!
# Sessions that are alike

Two sessions have the same ahead of them if they agree on who they are, on the number of the next
message, on the retry policy and the receive buffer, and on the outcomes of the calls to come.  What
their storage holds, how large it is and what it is grown to for sending may differ.  This file runs
two such sessions side by side.

* `Outcome.Alike.bind`: runs made of parts that end alike end alike;
* `Channel.receiveAgainst_sized`: the room that a batch is read into does not matter, as long as
  every batch fits;
* `Session.Alike.transmit`: the same message is sent, wherever it is staged;
* `Session.Receives.receive`: the same batch is received, into whatever room there is;
* `Answer.Alike.next`, `Answer.Alike.forEach`: the same is read of it;
* `Session.Alike.sendAcked`, `Session.Alike.sendWith`: a message is sent and answered.
-/

namespace Rtnetlink

open LittleEndian

/-! ## Runs that end alike -/

/-- Two runs end alike: both with values, which are related with the states by `R`, or both refused
for the same cause or halted by the same fault, in states that are related by `Q`. -/
inductive Outcome.Alike {ε σ α : Type} (R : α → σ → α → σ → Prop) (Q : σ → σ → Prop) :
    Outcome ε σ α → Outcome ε σ α → Prop where
  | ok {value value' : α} {s s' : σ} (h : R value s value' s') :
    Alike R Q (.ok value s) (.ok value' s')
  | refused {cause : ε} {s s' : σ} (h : Q s s') : Alike R Q (.refused cause s) (.refused cause s')
  | halted {fault : Fault} {s s' : σ} (h : Q s s') : Alike R Q (.halted fault s) (.halted fault s')

namespace Outcome.Alike

variable {ε σ α β : Type} {R : α → σ → α → σ → Prop} {R' : β → σ → β → σ → Prop}
  {Q : σ → σ → Prop} {s s' : σ}

lemma bind {first first' : Run ε σ α} {next next' : α → Run ε σ β}
    (h : Outcome.Alike R Q (first s) (first' s'))
    (h' : ∀ value t value' t', R value t value' t' →
      Outcome.Alike R' Q (next value t) (next' value' t')) :
    Outcome.Alike R' Q ((first >>= next) s) ((first' >>= next') s') := by
  rw [Run.bind_apply, Run.bind_apply]
  generalize first s = o, first' s' = o' at h
  cases h with
  | ok h => exact h' _ _ _ _ h
  | refused h => exact .refused h
  | halted h => exact .halted h

/-- A run on a part of the state ends as the part does. -/
lemma within {τ : Type} {R' : α → τ → α → τ → Prop} {Q' : τ → τ → Prop} {part : τ → σ}
    {put : σ → τ → τ} {run run' : Run ε σ α} {t t' : τ}
    (h : Outcome.Alike R Q (run (part t)) (run' (part t')))
    (hR : ∀ {value s value' s'}, R value s value' s' → R' value (put s t) value' (put s' t'))
    (hQ : ∀ {s s'}, Q s s' → Q' (put s t) (put s' t')) :
    Outcome.Alike R' Q' (Run.within part put run t) (Run.within part put run' t') := by
  rw [Run.within, Run.within]
  generalize run (part t) = o, run' (part t') = o' at h
  cases h with
  | ok h => exact .ok (hR h)
  | refused h => exact .refused (hQ h)
  | halted h => exact .halted (hQ h)

end Outcome.Alike

/-! ## Receiving with more or less room -/

/-- The same call, as if it had been made with that room. -/
def Exchange.sized (room : Nat) : Exchange → Exchange
  | .sent message code => .sent message code
  | .received _ result => .received room result

/-- The batch is no longer than the limit, and its length is reported as it is. -/
def Delivery.Fits (limit : Nat) : Delivery → Prop
  | .failed _ => True
  | .batch bytes claimed _ => bytes.length ≤ limit ∧ claimed.getD bytes.length = bytes.length

instance (limit : Nat) (d : Delivery) : Decidable (d.Fits limit) :=
  match d with
  | .failed _ => .isTrue trivial
  | .batch .. => inferInstanceAs (Decidable (_ ∧ _))

@[simp] lemma Exchange.sized_sized (room room' : Nat) (e : Exchange) :
    (e.sized room).sized room' = e.sized room' := by
  cases e <;> rfl

/-- Since the one log was `past` and the other `past'`, the same calls were made, up to the room for
a batch. -/
def Exchange.SameSince (past past' log log' : List Exchange) : Prop :=
  ∃ calls calls', log = past ++ calls ∧ log' = past' ++ calls' ∧
    calls'.map (sized 0) = calls.map (sized 0)

lemma Exchange.sameSince_refl (log log' : List Exchange) : SameSince log log' log log' :=
  ⟨[], [], by simp, by simp, rfl⟩

lemma Exchange.SameSince.append {past past' log log' calls calls' : List Exchange}
    (h : SameSince past past' log log') (hcalls : calls'.map (sized 0) = calls.map (sized 0)) :
    SameSince past past' (log ++ calls) (log' ++ calls') := by
  obtain ⟨earlier, earlier', rfl, rfl, hearlier⟩ := h
  exact ⟨earlier ++ calls, earlier' ++ calls', List.append_assoc .., List.append_assoc ..,
    by rw [List.map_append, List.map_append, hearlier, hcalls]⟩

namespace Channel

variable {policy : RetryPolicy} {room limit : Nat} {drained : Int} {deliveries left : List Delivery}
  {retries : Nat} {calls : List Exchange}

lemma receiveDrained_sized (policy : RetryPolicy) (room limit : Nat) (number : Int)
    (retries : Nat) :
    receiveDrained policy room number retries
      = (receiveDrained policy limit number retries).map fun (errno, calls) =>
        (errno, calls.map (Exchange.sized room)) := by
  simp only [receiveDrained]
  split
  · rfl
  · split
    · cases policy.maxRetries <;> simp [Exchange.sized]
    · rfl

/-- If every batch fits, a call with room for them brings what any other such call brings. -/
lemma receiveAgainst_sized (hfits : ∀ d ∈ deliveries, d.Fits limit) (hroom : limit ≤ room) :
    receiveAgainst policy room drained deliveries retries
      = (receiveAgainst policy limit drained deliveries retries).map fun (reception, left, calls) =>
        (reception, left, calls.map (Exchange.sized room)) := by
  induction deliveries generalizing retries with
  | nil =>
    rw [receiveAgainst, receiveAgainst, receiveDrained_sized policy room limit]
    rcases receiveDrained policy limit drained retries with _ | ⟨errno, calls⟩ <;> rfl
  | cons delivery rest ih =>
    have hrest : ∀ d ∈ rest, d.Fits limit := fun d hd => hfits d (List.mem_cons_of_mem _ hd)
    cases delivery with
    | batch bytes claimed fromKernel =>
      obtain ⟨hlength, -⟩ := hfits _ List.mem_cons_self
      simp only [receiveAgainst, Option.map_some, List.map_cons, List.map_nil, Exchange.sized,
        List.take_of_length_le hlength, List.take_of_length_le (Nat.le_trans hlength hroom),
        Nat.min_eq_left hlength, Nat.min_eq_left (Nat.le_trans hlength hroom)]
    | failed number =>
      simp only [receiveAgainst, ih hrest]
      split
      · rcases receiveAgainst policy limit drained rest retries with _ | ⟨_, _, _⟩ <;> rfl
      · split
        · rcases receiveAgainst policy limit drained rest (retries + 1) with _ | ⟨_, _, _⟩ <;> rfl
        · rfl

/-- If every batch fits, one that arrives arrives whole; what is left of the deliveries is their
end. -/
lemma reception_of_fits {reception : Reception} (hfits : ∀ d ∈ deliveries, d.Fits limit)
    (h : receiveAgainst policy limit drained deliveries retries = some (reception, left, calls)) :
    left <:+ deliveries ∧ ∀ bytes count fromKernel, reception = .batch bytes count fromKernel →
      count = bytes.length ∧ bytes.length ≤ limit := by
  induction deliveries generalizing retries calls with
  | nil =>
    simp only [receiveAgainst, Option.map_eq_some_iff, Prod.mk.injEq] at h
    obtain ⟨_, -, rfl, rfl, -⟩ := h
    refine ⟨List.suffix_rfl, ?_⟩
    rintro _ _ _ ⟨⟩
  | cons delivery rest ih =>
    have hrest : ∀ d ∈ rest, d.Fits limit := fun d hd => hfits d (List.mem_cons_of_mem _ hd)
    -- a call that is repeated brings what the next one brings
    have hagain : ∀ {retries calls},
        receiveAgainst policy limit drained rest retries = some (reception, left, calls) →
        left <:+ delivery :: rest ∧ ∀ bytes count fromKernel,
          reception = .batch bytes count fromKernel →
            count = bytes.length ∧ bytes.length ≤ limit := by
      intro retries calls hcall
      obtain ⟨hleft, hbatch⟩ := ih hrest hcall
      exact ⟨hleft.trans (List.suffix_cons ..), hbatch⟩
    cases delivery with
    | batch bytes claimed fromKernel =>
      obtain ⟨hlength, hclaimed⟩ := hfits _ List.mem_cons_self
      simp only [receiveAgainst, List.take_of_length_le hlength, Nat.min_eq_left hlength] at h
      cases h
      refine ⟨List.suffix_cons .., ?_⟩
      rintro _ _ _ ⟨⟩
      exact ⟨hclaimed, hlength⟩
    | failed number =>
      simp only [receiveAgainst] at h
      split at h
      · obtain ⟨⟨_, _, _⟩, hcall, hr⟩ := Option.map_eq_some_iff.1 h
        cases hr
        exact hagain hcall
      · split at h
        · obtain ⟨⟨_, _, _⟩, hcall, hr⟩ := Option.map_eq_some_iff.1 h
          cases hr
          exact hagain hcall
        · cases h
          refine ⟨List.suffix_cons .., ?_⟩
          rintro _ _ _ ⟨⟩

end Channel

/-! ## Sessions with the same ahead of them -/

/-- What a session has ahead of it, whatever its storage has been used for. -/
structure Outlook where
  /-- The sender of its messages. -/
  portId : UInt32
  /-- The number of the next message. -/
  nextSequence : UInt32
  /-- What happens to failed calls. -/
  retry : RetryPolicy
  /-- How many bytes are reserved for each batch. -/
  receiveBufferSize : Nat
  /-- The outcomes of the send calls to come. -/
  sendCodes : List CallCode
  /-- The outcomes of the receive calls to come. -/
  deliveries : List Delivery
  /-- The error of every receive call after those. -/
  drained : Int

namespace Session

/-- What the session has ahead of it. -/
def outlook (s : Session) : Outlook where
  portId := s.portId
  nextSequence := s.nextSequence
  retry := s.options.retry
  receiveBufferSize := s.options.receiveBufferSize
  sendCodes := s.channel.sendCodes
  deliveries := s.channel.deliveries
  drained := s.channel.drained

/-- Two sessions have the same ahead of them, and have made the same calls since the one had made
those of `past` and the other those of `past'`. -/
structure Alike (past past' : List Exchange) (s s' : Session) : Prop where
  outlook_eq : s'.outlook = s.outlook
  /-- The batches to come fit into the receive buffer. -/
  fits : ∀ d ∈ s.channel.deliveries, d.Fits s.options.receiveBufferSize
  calls : Exchange.SameSince past past' s.channel.log s'.channel.log

variable {past past' : List Exchange} {s s' : Session}

namespace Alike

variable (h : s.Alike past past' s')
include h

/-- The drafts play no part in it. -/
lemma draft (d d' : Draft) : Alike past past' { s with draft := d } { s' with draft := d' } :=
  ⟨h.outlook_eq, h.fits, h.calls⟩

lemma retry_eq : s'.options.retry = s.options.retry := congrArg Outlook.retry h.outlook_eq

lemma receiveBufferSize_eq : s'.options.receiveBufferSize = s.options.receiveBufferSize :=
  congrArg Outlook.receiveBufferSize h.outlook_eq

/-- The messages that are begun next have the same header. -/
lemma header_eq (type flags : UInt16) : s'.header type flags = s.header type flags := by
  rw [header, header, show s'.portId = s.portId from congrArg Outlook.portId h.outlook_eq,
    show s'.nextSequence = s.nextSequence from congrArg Outlook.nextSequence h.outlook_eq]

end Alike

end Session

/-- Two drafts that hold the same message, which is in order. -/
structure Draft.Alike (d d' : Draft) : Prop where
  outline_eq : d'.outline = d.outline
  fits : d.arena.committed ≤ d.arena.capacity
  fits' : d'.arena.committed ≤ d'.arena.capacity
  nested : d.outline.Nested

namespace Draft.Alike

variable {d d' : Draft} (h : d.Alike d')
include h

lemma bytes_eq : d'.bytes = d.bytes := congrArg Outline.bytes h.outline_eq

lemma depth_eq : d'.depth = d.depth := congrArg Outline.depth h.outline_eq

lemma length_eq : d'.length = d.length := by
  rw [← length_outline h.fits', ← length_outline h.fits, h.outline_eq]

lemma header_le : Header.size ≤ d.length := by
  rw [← length_outline h.fits]
  exact h.nested.header_le

end Draft.Alike

/-- Filling in the length of a message that has a header. -/
lemma Draft.stampLength_eq_ok {ε : Type} {d : Draft}
    (hfits : d.arena.committed ≤ d.arena.capacity) (hheader : Header.size ≤ d.length) :
    ∃ d', (stampLength : Run ε Draft Unit) d = .ok () d' ∧
      d'.bytes = overlay d.bytes 0 (ofU32 (UInt32.ofNat d.length)) ∧
      d'.arena.capacity = d.arena.capacity := by
  have hinside : 0 + (ofU32 (UInt32.ofNat d.length)).length ≤ d.arena.committed := by
    rw [length_ofU32, Nat.zero_add]
    exact Nat.le_trans (by decide) hheader
  obtain ⟨a, hpatch, -, hcapacity, hdata, -⟩ := Arena.patch_eq_ok (ε := ε) 0 _ hfits hinside
  refine ⟨{ d with arena := a }, ?_, hdata, hcapacity⟩
  rw [stampLength, Run.bind_of_ok (Run.state_apply d)]
  exact onArena_eq_ok.2 ⟨a, hpatch, rfl⟩

/-- Starting over with room that is there or can be grown commits nothing and makes the room. -/
lemma Arena.reset_of_canHold {ε : Type} {a : Arena} {room : Nat} (h : a.CanHold room) :
    ∃ a', (reset room : Run ε Arena Unit) a = .ok () a' ∧ a'.committed = 0 ∧
      room ≤ a'.capacity := by
  obtain ⟨zeros, hroom, hreset⟩ := reset_grown (ε := ε) h.2
  refine ⟨_, hreset, rfl, ?_⟩
  simpa [capacity] using hroom

namespace Session

variable {past past' : List Exchange} {s s' : Session}

/-! ## Sending -/

/-- Whether there is room to receive into, or it can be made. -/
def CanReceive (s : Session) : Prop := s.draft.arena.CanHold s.options.receiveBufferSize

instance (s : Session) : Decidable s.CanReceive := inferInstanceAs (Decidable (Arena.CanHold ..))

/-- The draft is offered to the kernel with the same outcomes. -/
lemma Alike.deliver (h : s.Alike past past' s') (hbytes : s'.draft.bytes = s.draft.bytes) :
    Outcome.Alike (fun _ t _ t' => t.Alike past past' t' ∧ t = { s with channel := t.channel } ∧
        t' = { s' with channel := t'.channel })
      (Session.Alike past past') (Session.deliver s) (Session.deliver s') := by
  have hcodes : s'.channel.sendCodes = s.channel.sendCodes :=
    congrArg Outlook.sendCodes h.outlook_eq
  have hafter : ∀ left new, Session.Alike past past'
      { s with channel := { s.channel with sendCodes := left, log := s.channel.log ++ new } }
      { s' with channel := { s'.channel with sendCodes := left, log := s'.channel.log ++ new } } :=
    fun left new => ⟨congrArg ({ · with sendCodes := left }) h.outlook_eq, h.fits,
      h.calls.append rfl⟩
  rw [Session.deliver, Session.deliver, Channel.send, Channel.send, h.retry_eq, hcodes, hbytes]
  rcases Channel.sendAgainst s.options.retry s.draft.bytes s.channel.sendCodes 0
    with ⟨errno | ⟨⟨⟩⟩, left, new⟩
  · exact .refused (hafter left new)
  · exact .ok ⟨hafter left new, rfl, rfl⟩

/-- The same message is sent, and the room to receive into stays as it is. -/
lemma Alike.transmit (h : s.Alike past past' s') (hd : s.draft.Alike s'.draft) :
    Outcome.Alike (fun number t number' t' => number' = number ∧ t.Alike past past' t' ∧
        (s.CanReceive → t.CanReceive) ∧ (s'.CanReceive → t'.CanReceive))
      (Session.Alike past past') (Session.transmit s) (Session.transmit s') := by
  rw [Session.transmit, Run.bind_of_ok (Run.state_apply s), Run.bind_of_ok (Run.state_apply s'),
    hd.depth_eq]
  split
  · exact .refused h
  · obtain ⟨d, hstamp, hbytes, hcapacity⟩ :=
      Draft.stampLength_eq_ok (ε := SessionError) hd.fits hd.header_le
    obtain ⟨d', hstamp', hbytes', hcapacity'⟩ :=
      Draft.stampLength_eq_ok (ε := SessionError) hd.fits' (hd.length_eq ▸ hd.header_le)
    have hsame : d'.bytes = d.bytes := by
      rw [hbytes, hbytes', hd.bytes_eq, hd.length_eq]
    rw [Run.bind_of_ok (onDraft_eq_ok.2 ⟨d, hstamp, rfl⟩),
      Run.bind_of_ok (onDraft_eq_ok.2 ⟨d', hstamp', rfl⟩), Run.bind_of_ok (Run.state_apply _),
      Run.bind_of_ok (Run.state_apply _), hsame]
    rcases Header.decode d.bytes with cause | header
    · exact .refused (h.draft d d')
    · refine ((h.draft d d').deliver hsame).bind fun _ t _ t' ht => ?_
      obtain ⟨ht, hkept, hkept'⟩ := ht
      refine .ok ⟨rfl, ht, fun hroom => ?_, fun hroom => ?_⟩
      · rw [hkept]
        exact hroom.mono (Nat.le_refl _) (Nat.le_of_eq hcapacity.symm)
      · rw [hkept']
        exact hroom.mono (Nat.le_refl _) (Nat.le_of_eq hcapacity'.symm)

/-! ## Receiving -/

/-- The arenas hold the same batch, and have room for every batch to come. -/
structure Receives (past past' : List Exchange) (s s' : Session) : Prop extends
    Alike past past' s s' where
  data_eq : s'.draft.arena.data = s.draft.arena.data
  small : s.options.receiveBufferSize ≤ Size.greatest
  room : s.options.receiveBufferSize ≤ s.draft.arena.capacity
  room' : s.options.receiveBufferSize ≤ s'.draft.arena.capacity

/-- Nothing is held yet, and a batch of some length stands at the start of both storages. -/
structure Fetched (past past' : List Exchange) (count : Nat) (s s' : Session) : Prop extends
    Receives past past' s s' where
  zero : s.draft.arena.committed = 0
  zero' : s'.draft.arena.committed = 0
  count_le : count ≤ s.options.receiveBufferSize
  take_eq : s'.draft.arena.storage.take count = s.draft.arena.storage.take count

lemma data_of_zero {a : Arena} (h : a.committed = 0) : a.data = [] := by
  rw [Arena.data, h, List.take_zero]

/-- Both arenas are cleared for receiving. -/
lemma Alike.clearForReceiving {Q : Session → Session → Prop} (h : s.Alike past past' s')
    (hroom : s.CanReceive) (hroom' : s'.CanReceive) :
    Outcome.Alike (fun _ t _ t' => t.Receives past past' t' ∧ t.draft.arena.committed = 0 ∧
        t'.draft.arena.committed = 0)
      Q ((Session.clearForReceiving : Run SessionError Session Unit) s)
      ((Session.clearForReceiving : Run SessionError Session Unit) s') := by
  obtain ⟨a, hreset, hzero, ha⟩ := Arena.reset_of_canHold (ε := SessionError) hroom
  obtain ⟨a', hreset', hzero', ha'⟩ := Arena.reset_of_canHold (ε := SessionError) hroom'
  have hclear : (Session.clearForReceiving : Run SessionError Session Unit) s
      = .ok () { s with draft.arena := a } :=
    onDraft_eq_ok.2 ⟨_, Draft.onArena_eq_ok.2 ⟨a, hreset, rfl⟩, rfl⟩
  have hclear' : (Session.clearForReceiving : Run SessionError Session Unit) s'
      = .ok () { s' with draft.arena := a' } :=
    onDraft_eq_ok.2 ⟨_, Draft.onArena_eq_ok.2 ⟨a', hreset', rfl⟩, rfl⟩
  rw [hclear, hclear']
  refine .ok ⟨⟨h.draft _ _, ?_, hroom.1, ha, h.receiveBufferSize_eq ▸ ha'⟩, hzero, hzero'⟩
  rw [data_of_zero hzero, data_of_zero hzero']

/-- What a receive call brings is said by what the session has ahead of it. -/
lemma channel_receive_eq {t : Session} (houtlook : t.outlook = s.outlook)
    (hfits : ∀ d ∈ s.channel.deliveries, d.Fits s.options.receiveBufferSize)
    (hroom : s.options.receiveBufferSize ≤ t.draft.arena.capacity) :
    t.channel.receive t.options.retry t.draft.arena.capacity
      = (Channel.receiveAgainst s.options.retry s.options.receiveBufferSize s.channel.drained
          s.channel.deliveries 0).map fun (reception, left, calls) =>
        (reception, { t.channel with
          deliveries := left
          log := t.channel.log ++ calls.map (Exchange.sized t.draft.arena.capacity) }) := by
  rw [Channel.receive, show t.options.retry = s.options.retry from congrArg Outlook.retry houtlook,
    show t.channel.deliveries = s.channel.deliveries from congrArg Outlook.deliveries houtlook,
    ← show t.channel.drained = s.channel.drained from congrArg Outlook.drained houtlook,
    Channel.receiveAgainst_sized hfits hroom, Option.map_map]
  rfl

/-- The same batch is fetched, into whatever room there is. -/
lemma Receives.fetch (h : s.Receives past past' s') (hzero : s.draft.arena.committed = 0)
    (hzero' : s'.draft.arena.committed = 0) :
    Outcome.Alike (fun answer t answer' t' => answer' = answer ∧ Fetched past past' answer.1 t t')
      (Receives past past') (Session.fetch s) (Session.fetch s') := by
  -- the calls differ in the room that they offer
  have hafter : ∀ (left : List Delivery) (new : List Exchange) (a a' : Arena),
      left <:+ s.channel.deliveries → a.committed = 0 → a'.committed = 0 →
      a.capacity = s.draft.arena.capacity → a'.capacity = s'.draft.arena.capacity →
      Receives past past'
        { s with
          channel := { s.channel with
            deliveries := left
            log := s.channel.log ++ new.map (Exchange.sized s.draft.arena.capacity) }
          draft := { s.draft with arena := a } }
        { s' with
          channel := { s'.channel with
            deliveries := left
            log := s'.channel.log ++ new.map (Exchange.sized s'.draft.arena.capacity) }
          draft := { s'.draft with arena := a' } } := by
    intro left new a a' hleft ha ha' hcapacity hcapacity'
    refine ⟨⟨congrArg ({ · with deliveries := left }) h.outlook_eq,
      fun d hd => h.fits d (hleft.mem hd), h.calls.append ?_⟩, ?_, h.small, hcapacity ▸ h.room,
      hcapacity' ▸ h.room'⟩
    · simp only [List.map_map, Function.comp_def, Exchange.sized_sized]
    · rw [data_of_zero ha, data_of_zero ha']
  rw [Session.fetch, Session.fetch, channel_receive_eq rfl h.fits h.room,
    channel_receive_eq h.outlook_eq h.fits h.room']
  rcases hcall : Channel.receiveAgainst s.options.retry s.options.receiveBufferSize
      s.channel.drained s.channel.deliveries 0
    with _ | ⟨⟨bytes, count, fromKernel⟩ | errno, left, new⟩
  · exact .halted h
  · obtain ⟨hleft, hbatch⟩ := Channel.reception_of_fits h.fits hcall
    obtain ⟨rfl, hlength⟩ := hbatch bytes count fromKernel rfl
    refine .ok ⟨rfl, hafter left new (s.draft.arena.fill bytes) (s'.draft.arena.fill bytes) hleft
      hzero hzero' (Arena.capacity_fill ..) (Arena.capacity_fill ..), hzero, hzero', hlength, ?_⟩
    have hstart : ∀ {a : Arena}, s.options.receiveBufferSize ≤ a.capacity →
        (a.fill bytes).storage.take bytes.length = bytes := by
      intro a ha
      simp only [Arena.fill, overlay, List.take_of_length_le (Nat.le_trans hlength ha),
        List.take_zero, List.nil_append]
      exact List.take_left
    rw [hstart h.room, hstart h.room']
  · obtain ⟨hleft, -⟩ := Channel.reception_of_fits h.fits hcall
    exact .refused (hafter left new s.draft.arena s'.draft.arena hleft hzero hzero' rfl rfl)

/-- A batch at the start of the storage is committed. -/
lemma commit_eq_ok {count : Nat} (hzero : s.draft.arena.committed = 0)
    (hsmall : count ≤ Size.greatest) (hroom : count ≤ s.draft.arena.capacity) :
    (onDraft (Draft.onArena (Arena.commit count)) : Run SessionError Session Unit) s
      = .ok () { s with draft.arena.committed := count } := by
  have hcommit : (Arena.commit count : Run SessionError Arena Unit) s.draft.arena
      = .ok () { s.draft.arena with committed := s.draft.arena.committed + count } :=
    Arena.commit_eq_ok (by omega) (by omega)
  rw [hzero, Nat.zero_add] at hcommit
  exact onDraft_eq_ok.2 ⟨_, Draft.onArena_eq_ok.2 ⟨_, hcommit, rfl⟩, rfl⟩

/-- The same batch is received. -/
lemma Receives.receive (h : s.Receives past past' s') :
    Outcome.Alike (fun length t length' t' => length' = length ∧ t.Receives past past' t')
      (Receives past past') (Session.receive s) (Session.receive s') := by
  have hclear := h.toAlike.clearForReceiving (Q := Receives past past') ⟨h.small, .inl h.room⟩
    ⟨h.receiveBufferSize_eq ▸ h.small, .inl (h.receiveBufferSize_eq ▸ h.room')⟩
  rw [Session.receive]
  refine hclear.bind fun _ t _ t' ht => ?_
  obtain ⟨ht, hzero, hzero'⟩ := ht
  refine (ht.fetch hzero hzero').bind fun answer u answer' u' hu => ?_
  obtain ⟨rfl, hu⟩ := hu
  obtain ⟨count, fromKernel⟩ := answer'
  dsimp only
  split
  · exact .refused hu.toReceives
  · split
    · exact .refused hu.toReceives
    · have hsmall := Nat.le_trans hu.count_le hu.small
      have hroom := Nat.le_trans hu.count_le hu.room
      have hroom' := Nat.le_trans hu.count_le hu.room'
      rw [Run.bind_of_ok (Run.state_apply u), Run.bind_of_ok (Run.state_apply u'),
        Nat.min_eq_left hroom, Nat.min_eq_left hroom',
        Run.bind_of_ok (commit_eq_ok hu.zero hsmall hroom),
        Run.bind_of_ok (commit_eq_ok hu.zero' hsmall hroom')]
      exact .ok ⟨rfl, hu.toAlike.draft _ _, hu.take_eq, hu.small, hu.room, hu.room'⟩

end Session

/-! ## Reading answers -/

namespace Answer

lemma forEach_eq {β : Type} {handler : β → Response → β × Option String} (a : Answer) (b : β) :
    a.forEach handler b = match a.next with
      | .ok none rest => .ok () (rest, b)
      | .refused cause rest => .refused cause (rest, b)
      | .halted fault rest => .halted fault (rest, b)
      | .ok (some response) rest =>
        match handler b response with
        | (b, none) => rest.forEach handler b
        | (b, some text) => .refused (.handler text) (rest, b) := by
  rw [forEach]
  split <;> next hread => exact hread ▸ rfl

/-- The answers have been read equally far, and their sessions hold the same batch. -/
def Alike (past past' : List Exchange) (a a' : Answer) : Prop :=
  ∃ s', a.session.Receives past past' s' ∧ a' = { a with session := s' }

/-- The steps come to the same. -/
inductive Step.Alike (past past' : List Exchange) : Step → Step → Prop where
  | yield {response : Response} {a a' : Answer} (h : a.Alike past past' a') :
    Alike past past' (.yield response a) (.yield response a')
  | fail {cause : SessionError} {a a' : Answer} (h : a.Alike past past' a') :
    Alike past past' (.fail cause a) (.fail cause a')
  | finish {a a' : Answer} (h : a.Alike past past' a') : Alike past past' (.finish a) (.finish a')
  | advance {a a' : Answer} (h : a.Alike past past' a') :
    Alike past past' (.advance a) (.advance a')
  | halt {fault : Fault} {a a' : Answer} (h : a.Alike past past' a') :
    Alike past past' (.halt fault a) (.halt fault a')

namespace Alike

variable {past past' : List Exchange} {a a' : Answer}

lemma judge (h : a.Alike past past' a') (r : Record) :
    Step.Alike past past' (Answer.judge r a) (Answer.judge r a') := by
  obtain ⟨s', hs, rfl⟩ := h
  rw [judge_eq, judge_eq]
  rcases r.item with cause | response
  · exact .fail ⟨s', hs, rfl⟩
  · exact .yield ⟨s', hs, rfl⟩

lemma scan (h : a.Alike past past' a') : Step.Alike past past' a.scan a'.scan := by
  obtain ⟨s', hs, rfl⟩ := h
  unfold Answer.scan
  dsimp only
  rw [hs.data_eq]
  split
  · exact .halt ⟨s', hs, rfl⟩
  · rcases Record.decode ((a.session.draft.arena.data.take a.length).drop a.offset) with _ | record
    · exact .advance ⟨s', hs, rfl⟩
    · dsimp only
      split
      · exact .advance ⟨s', hs, rfl⟩
      · split
        · exact .advance ⟨s', hs, rfl⟩
        · exact judge (a := { a with offset := a.offset + record.alignedLength, found := true })
            ⟨s', hs, rfl⟩ record

lemma refill (h : a.Alike past past' a') : Step.Alike past past' a.refill a'.refill := by
  obtain ⟨s', hs, rfl⟩ := h
  have hreceive := hs.receive
  unfold Answer.refill
  dsimp only
  generalize a.session.receive = o, s'.receive = o' at hreceive
  cases hreceive with
  | ok h =>
    obtain ⟨rfl, ht⟩ := h
    exact .advance ⟨_, ht, rfl⟩
  | refused ht => exact .fail ⟨_, ht, rfl⟩
  | halted ht => exact .halt ⟨_, ht, rfl⟩

lemma step (h : a.Alike past past' a') : Step.Alike past past' a.step a'.step := by
  have hscan := h.scan
  have hrefill := h.refill
  obtain ⟨s', hs, rfl⟩ := h
  unfold Answer.step
  dsimp only
  split
  · exact .finish ⟨s', hs, rfl⟩
  · split
    · split
      · exact .finish ⟨s', hs, rfl⟩
      · exact hrefill
    · exact hscan

/-- The next response is the same. -/
lemma next (h : a.Alike past past' a') :
    Outcome.Alike (fun response rest response' rest' => response' = response ∧
        rest.Alike past past' rest')
      (Answer.Alike past past') a.next a'.next := by
  have hstep := h.step
  rw [next_eq a']
  generalize a'.step = step' at hstep
  clear h
  fun_induction Answer.next a generalizing step' with
  | case1 a response rest stepped =>
    rw [stepped] at hstep
    cases hstep with | yield hrest => exact .ok ⟨rfl, hrest⟩
  | case2 a cause rest stepped =>
    rw [stepped] at hstep
    cases hstep with | fail hrest => exact .refused hrest
  | case3 a rest stepped =>
    rw [stepped] at hstep
    cases hstep with | finish hrest => exact .ok ⟨rfl, hrest⟩
  | case4 a fault rest stepped =>
    rw [stepped] at hstep
    cases hstep with | halt hrest => exact .halted hrest
  | case5 a rest stepped ih =>
    -- nothing has come of it on either side
    rw [stepped] at hstep
    cases hstep with
    | @advance _ rest' hrest =>
      dsimp only
      rw [next_eq rest']
      exact ih _ hrest.step

/-- The handler gets the same responses. -/
lemma forEach {β : Type} (h : a.Alike past past' a')
    (handler : β → Response → β × Option String) (b : β) :
    Outcome.Alike (fun _ p _ p' => p'.2 = p.2 ∧ p.1.Alike past past' p'.1)
      (fun p p' => p'.2 = p.2 ∧ p.1.Alike past past' p'.1)
      (a.forEach handler b) (a'.forEach handler b) := by
  have hnext := h.next
  rw [forEach_eq a']
  generalize a'.next = o' at hnext
  clear h
  fun_induction Answer.forEach handler a b generalizing o' with
  | case1 a b rest hread =>
    rw [hread] at hnext
    cases hnext with
    | ok hrest =>
      obtain ⟨rfl, hrest⟩ := hrest
      exact .ok ⟨rfl, hrest⟩
  | case2 a b cause rest hread =>
    rw [hread] at hnext
    cases hnext with | refused hrest => exact .refused ⟨rfl, hrest⟩
  | case3 a b fault rest hread =>
    rw [hread] at hnext
    cases hnext with | halted hrest => exact .halted ⟨rfl, hrest⟩
  | case4 a b response rest hread b' hhandler ih =>
    rw [hread] at hnext
    cases hnext with
    | @ok _ _ _ rest' hrest =>
      obtain ⟨rfl, hrest⟩ := hrest
      dsimp only
      rw [hhandler]
      dsimp only
      rw [forEach_eq rest']
      exact ih _ hrest.next
  | case5 a b response rest hread b' text hhandler =>
    rw [hread] at hnext
    cases hnext with
    | ok hrest =>
      obtain ⟨rfl, hrest⟩ := hrest
      dsimp only
      rw [hhandler]
      exact .refused ⟨rfl, hrest⟩

end Alike

end Answer

namespace Session

variable {past past' : List Exchange} {s s' : Session}

/-- The same message is sent, and its answer can be read on both sides. -/
lemma Alike.sendAcked (h : s.Alike past past' s') (hd : s.draft.Alike s'.draft)
    (hroom : s.CanReceive) (hroom' : s'.CanReceive) :
    Outcome.Alike (fun a _ a' _ => a.Alike past past' a') (Session.Alike past past')
      (Session.sendAcked s) (Session.sendAcked s') := by
  rw [Session.sendAcked]
  refine (h.transmit hd).bind fun number t number' t' ht => ?_
  obtain ⟨hnumber, ht, hkept, hkept'⟩ := ht
  refine (ht.clearForReceiving (hkept hroom) (hkept' hroom')).bind fun _ u _ u' hu => ?_
  rw [Run.bind_of_ok (Run.state_apply u), Run.bind_of_ok (Run.state_apply u'), hnumber]
  exact .ok ⟨u', hu.1, rfl⟩

/-- The handler gets the same responses to the same message. -/
lemma Alike.sendWith {β : Type} (h : s.Alike past past' s') (hd : s.draft.Alike s'.draft)
    (hroom : s.CanReceive) (hroom' : s'.CanReceive)
    (handler : β → Response → β × Option String) (b : β) :
    Outcome.Alike (fun _ p _ p' => p'.2 = p.2 ∧ p.1.Alike past past' p'.1)
      (fun p p' => p'.2 = p.2 ∧ p.1.Alike past past' p'.1)
      (Session.sendWith handler (s, b)) (Session.sendWith handler (s', b)) := by
  have hacked := h.sendAcked hd hroom hroom'
  rw [Session.sendWith, Session.sendWith]
  generalize Session.sendAcked s = o, Session.sendAcked s' = o' at hacked
  cases hacked with
  | refused ht => exact .refused ⟨rfl, ht⟩
  | halted ht => exact .halted ⟨rfl, ht⟩
  | @ok a a' _ _ ha =>
    have hread := ha.forEach handler b
    dsimp only
    generalize a.forEach handler b = o, a'.forEach handler b = o' at hread
    cases hread with
    | @ok _ _ p p' hp =>
      obtain ⟨hb, s', hs, ha'⟩ := hp
      exact .ok ⟨hb, ha' ▸ hs.toAlike⟩
    | refused hp =>
      obtain ⟨hb, s', hs, ha'⟩ := hp
      exact .refused ⟨hb, ha' ▸ hs.toAlike⟩
    | halted hp =>
      obtain ⟨hb, s', hs, ha'⟩ := hp
      exact .halted ⟨hb, ha' ▸ hs.toAlike⟩

/-- Both wait for the same message to be answered. -/
lemma Alike.sendAndWait (h : s.Alike past past' s') (hd : s.draft.Alike s'.draft)
    (hroom : s.CanReceive) (hroom' : s'.CanReceive) :
    Outcome.Alike (fun _ t _ t' => t.Alike past past' t') (Session.Alike past past')
      (Session.sendAndWait s) (Session.sendAndWait s') := by
  have hwith := h.sendWith hd hroom hroom' (fun b _ => (b, none)) ()
  exact hwith.within (fun hp => hp.2) fun hp => hp.2

end Session

end Rtnetlink
