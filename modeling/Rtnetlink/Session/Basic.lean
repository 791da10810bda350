import Rtnetlink.Session.Channel
import Rtnetlink.Session.Error

/-!
# Sessions: composing, sending and receiving

A session owns a channel, a sequence counter and one arena in which it stages the message it
composes and the batch it receives.  Starting a message takes the next sequence number, whether the
message is sent later or not.
-/

namespace Rtnetlink

/-- One conversation with the kernel. -/
structure Session where
  /-- The port id the kernel assigned; the sender of every message. -/
  portId : UInt32
  /-- The sequence number of the next message. -/
  nextSequence : UInt32 := 0
  /-- Buffer sizes and retry policy. -/
  options : SessionOptions := {}
  /-- The message being composed, in the arena that also receives batches. -/
  draft : Draft := {}
  /-- The way to the kernel. -/
  channel : Channel := {}

namespace Session

/-- A new session on a channel that was given a port id.  There is none if the reserve for sending
is larger than any storage. -/
def ofChannel? (channel : Channel) (portId : UInt32) (options : SessionOptions) : Option Session :=
  (Arena.ofCapacity? options.sendBufferSize).map fun arena =>
    { portId, options, channel, draft := { arena } }

/-- Runs on the session's draft. -/
def onDraft {ε α : Type} (run : Run ε Draft α) : Run ε Session α :=
  Run.within (·.draft) (fun draft s => { s with draft }) run

/-- Composes the session's message; a misuse is an error of the session. -/
def compose {α : Type} (run : Run Misuse Draft α) : Run SessionError Session α :=
  Run.mapCause .misuse (onDraft run)

/-- Starts a message of a type with flags, giving up the one under construction.  The request flag
is always added. -/
def begin {ε : Type} (type flags : UInt16) : Run ε Session Unit := do
  let s ← Run.state
  Run.modify fun s => { s with nextSequence := s.nextSequence + 1 }
  onDraft (Draft.start
    { length := 0
      type
      flags := flags ||| MessageFlag.request
      sequence := s.nextSequence
      portId := s.portId }
    s.options.sendBufferSize)

/-- Gives the bytes of the draft to the kernel, retrying as the policy says. -/
def deliver : Run SessionError Session Unit := fun s =>
  match s.channel.send s.options.retry s.draft.bytes with
  | (.ok (), channel) => .ok () { s with channel }
  | (.error errno, channel) => .refused (.io errno) { s with channel }

/-- Completes the header of the draft and sends it.  Yields its sequence number.  A draft with open
attributes is not sent. -/
def transmit : Run SessionError Session UInt32 := do
  let s ← Run.state
  if 0 < s.draft.depth then
    Run.refuse (.misuse (.stillOpen s.draft.depth))
  else do
    onDraft Draft.stampLength
    let s ← Run.state
    match Header.decode s.draft.bytes with
    | .error cause => Run.refuse (.malformed cause)
    | .ok header => do
      deliver
      pure header.sequence

/-- Sends the draft without waiting for an answer. -/
def send : Run SessionError Session Unit := do
  let _ ← transmit
  pure ()

/-- Gives up what is staged and reserves room for a batch. -/
def clearForReceiving {ε : Type} : Run ε Session Unit := do
  let s ← Run.state
  onDraft (Draft.onArena (Arena.reset s.options.receiveBufferSize))

/-- Reads one batch over the whole storage of the arena, retrying as the policy says.  Yields the
reported length and whether the sender has a routing-protocol address. -/
def fetch : Run SessionError Session (Nat × Bool) := fun s =>
  match s.channel.receive s.options.retry s.draft.arena.capacity with
  | none => .halted .endless s
  | some (.failed errno, channel) => .refused (.io errno) { s with channel }
  | some (.batch bytes count fromKernel, channel) =>
    .ok (count, fromKernel)
      { s with channel, draft := { s.draft with arena := s.draft.arena.fill bytes } }

/-- Receives one batch into the arena.  Yields the length of the batch, which is never more than
the storage holds. -/
def receive : Run SessionError Session Nat := do
  clearForReceiving
  let (count, fromKernel) ← fetch
  -- an empty batch closes the session whoever sent it
  if count = 0 then
    Run.refuse .closed
  else if fromKernel = false then
    Run.refuse .wrongAddress
  else do
    let s ← Run.state
    let length := min count s.draft.arena.capacity
    onDraft (Draft.onArena (Arena.commit length))
    pure length

/-- Closes the session. -/
def close (s : Session) : Except SessionError Unit :=
  match s.channel.closeFailure with
  | none => .ok ()
  | some number => .error (.io (.ofNumber number))

theorem channel_of_onDraft {ε α : Type} {run : Run ε Draft α} {s s' : Session} {value : α}
    (h : onDraft run s = .ok value s') : s'.channel = s.channel := by
  obtain ⟨draft, -, rfl⟩ := Run.within_eq_ok.1 h
  rfl

theorem deliveries_length_of_fetch {s s' : Session} {answer : Nat × Bool}
    (h : fetch s = .ok answer s') :
    s'.channel.deliveries.length < s.channel.deliveries.length := by
  unfold fetch at h
  split at h
  · cases h
  · cases h
  · next hreceive =>
    cases h
    exact Channel.deliveries_length_of_receive hreceive

/-- A batch that was received used up at least one of the deliveries to come. -/
theorem deliveries_length_of_receive {s s' : Session} {length : Nat}
    (h : receive s = .ok length s') :
    s'.channel.deliveries.length < s.channel.deliveries.length := by
  obtain ⟨⟨⟩, cleared, hclear, h⟩ := Run.bind_eq_ok.1 h
  obtain ⟨⟨count, fromKernel⟩, fetched, hfetch, h⟩ := Run.bind_eq_ok.1 h
  have hchannel : cleared.channel = s.channel := channel_of_onDraft hclear
  have hfewer := deliveries_length_of_fetch hfetch
  simp only at h
  split at h
  · cases h
  · split at h
    · cases h
    · rw [Run.bind_of_ok (Run.state_apply fetched)] at h
      obtain ⟨⟨⟩, committed, hcommit, h⟩ := Run.bind_eq_ok.1 h
      cases h
      rwa [channel_of_onDraft hcommit, ← hchannel]

end Session

end Rtnetlink
