import Rtnetlink.Session.Options

/-!
# The channel to the kernel

A session talks to the kernel through a datagram channel.  What the kernel does is not up to the
session, so a channel is given by the outcomes its calls will have, in order, and it keeps a log of
the calls that were made.  Both directions retry failed calls as the policy says.

* Sending stops at the first outcome that is a success or is not to be retried.
* Receiving also repeats a call for which the kernel ran out of buffer space; such a failure is
  neither bounded nor counted.
-/

namespace Rtnetlink

/-- The outcome of a call to come: 0 if it succeeds, else the number of its error. -/
abbrev CallCode := Int

/-- What one receive call brings. -/
inductive Delivery where
  /-- The call fails with this error number, even if it is 0. -/
  | failed (number : Int)
  /-- Bytes arrive.  The call reports the length `claimed`, if there is one, else how many bytes
  found room; the sender either has a routing-protocol address or has not. -/
  | batch (bytes : List UInt8) (claimed : Option Nat) (fromKernel : Bool)
deriving DecidableEq, Repr

/-- A call that was made on a channel. -/
inductive Exchange where
  /-- A message was given to the kernel, with this outcome. -/
  | sent (message : List UInt8) (code : CallCode)
  /-- A batch was asked for, with room for that many bytes; the call reported a length or the
  negative of an error number. -/
  | received (room : Nat) (result : Int)
deriving DecidableEq, Repr

/-- A channel, by what its calls will do and have done. -/
structure Channel where
  /-- The outcomes of the send calls to come; afterwards they succeed. -/
  sendCodes : List CallCode := []
  /-- The outcomes of the receive calls to come. -/
  deliveries : List Delivery := []
  /-- The error of every receive call after those. -/
  drained : Int := 104
  /-- The error number that closing the channel fails with, even if it is 0; without one, closing
  succeeds. -/
  closeFailure : Option Int := none
  /-- The calls made so far, in order. -/
  log : List Exchange := []
deriving Repr

/-- What receiving ends with. -/
inductive Reception where
  /-- A batch: its bytes, the reported length and whether the sender's address is right. -/
  | batch (bytes : List UInt8) (count : Nat) (fromKernel : Bool)
  /-- An error that is not retried. -/
  | failed (errno : Errno)
deriving DecidableEq, Repr

namespace Channel

/-- Sends a message against given outcomes after `retries` retries.  Yields the verdict, the
outcomes that are left and the calls that were made. -/
def sendAgainst (policy : RetryPolicy) (message : List UInt8) :
    (codes : List CallCode) → (retries : Nat) →
      Except Errno Unit × List CallCode × List Exchange
  | [], _ => (.ok (), [], [.sent message 0])
  | code :: rest, retries =>
    let call := Exchange.sent message code
    if code = 0 then
      (.ok (), rest, [call])
    else if policy.shouldRetry (.ofNumber code) retries then
      let (verdict, left, calls) := sendAgainst policy message rest (retries + 1)
      (verdict, left, call :: calls)
    else
      (.error (.ofNumber code), rest, [call])

/-- Sends a message. -/
def send (policy : RetryPolicy) (message : List UInt8) (c : Channel) :
    Except Errno Unit × Channel :=
  let (verdict, left, calls) := sendAgainst policy message c.sendCodes 0
  (verdict, { c with sendCodes := left, log := c.log ++ calls })

/-- Receives when every call fails with the same number, after `retries` retries: the calls that
are made until the policy gives up, unless it never does. -/
def receiveDrained (policy : RetryPolicy) (room : Nat) (number : Int) (retries : Nat) :
    Option (Errno × List Exchange) :=
  let errno := Errno.ofNumber number
  let call := Exchange.received room (-number)
  if errno = .noBufferSpace then
    none
  else if policy.isTransient errno then
    policy.maxRetries.map fun bound => (errno, List.replicate (bound - retries + 1) call)
  else
    some (errno, [call])

/-- Receives against given outcomes after `retries` retries.  Yields what arrived, the outcomes that
are left and the calls that were made; there is no result if the calls never end. -/
def receiveAgainst (policy : RetryPolicy) (room : Nat) (drained : Int) :
    (deliveries : List Delivery) → (retries : Nat) →
      Option (Reception × List Delivery × List Exchange)
  | [], retries =>
    (receiveDrained policy room drained retries).map fun (errno, calls) =>
      (.failed errno, [], calls)
  | .batch bytes claimed fromKernel :: rest, _ =>
    let count := claimed.getD (min bytes.length room)
    some (.batch (bytes.take room) count fromKernel, rest, [.received room count])
  | .failed number :: rest, retries =>
    let errno := Errno.ofNumber number
    let call := Exchange.received room (-number)
    let again (retries : Nat) :=
      (receiveAgainst policy room drained rest retries).map fun (reception, left, calls) =>
        (reception, left, call :: calls)
    if errno = .noBufferSpace then
      -- repeated without being counted
      again retries
    else if policy.shouldRetry errno retries then
      again (retries + 1)
    else
      some (.failed errno, rest, [call])

/-- Receives a batch with room for that many bytes. -/
def receive (policy : RetryPolicy) (room : Nat) (c : Channel) : Option (Reception × Channel) :=
  (receiveAgainst policy room c.drained c.deliveries 0).map fun (reception, left, calls) =>
    (reception, { c with deliveries := left, log := c.log ++ calls })

theorem length_of_receiveAgainst {policy : RetryPolicy} {room : Nat} {drained : Int}
    {deliveries left : List Delivery} {retries : Nat} {bytes : List UInt8} {count : Nat}
    {fromKernel : Bool} {calls : List Exchange}
    (h : receiveAgainst policy room drained deliveries retries
      = some (.batch bytes count fromKernel, left, calls)) :
    left.length < deliveries.length := by
  induction deliveries generalizing retries calls with
  | nil =>
    simp [receiveAgainst] at h
  | cons delivery rest ih =>
    cases delivery with
    | batch bytes' claimed fromKernel' =>
      simp only [receiveAgainst, Option.some.injEq, Prod.mk.injEq] at h
      obtain ⟨-, rfl, -⟩ := h
      simp
    | failed number =>
      simp only [receiveAgainst] at h
      split at h
      · simp only [Option.map_eq_some_iff, Prod.mk.injEq] at h
        obtain ⟨⟨reception, left', calls'⟩, hinner, rfl, rfl, -⟩ := h
        exact Nat.lt_succ_of_lt (ih hinner)
      · split at h
        · simp only [Option.map_eq_some_iff, Prod.mk.injEq] at h
          obtain ⟨⟨reception, left', calls'⟩, hinner, rfl, rfl, -⟩ := h
          exact Nat.lt_succ_of_lt (ih hinner)
        · simp at h

/-- A batch that arrives uses up at least one of the outcomes to come. -/
theorem deliveries_length_of_receive {policy : RetryPolicy} {room : Nat} {c c' : Channel}
    {bytes : List UInt8} {count : Nat} {fromKernel : Bool}
    (h : c.receive policy room = some (.batch bytes count fromKernel, c')) :
    c'.deliveries.length < c.deliveries.length := by
  simp only [receive, Option.map_eq_some_iff, Prod.mk.injEq] at h
  obtain ⟨⟨reception, left, calls⟩, hinner, rfl, rfl⟩ := h
  exact length_of_receiveAgainst hinner

end Channel

end Rtnetlink
