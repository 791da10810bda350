import Rtnetlink.Errno
import Rtnetlink.Wire.Protocol

/-!
# Session options: buffer sizes and the retry policy

A failed call on the channel is retried while its cause is transient and the bound, if there is
one, is not used up.
-/

namespace Rtnetlink

/-- Decides which failed calls are made again, and how often. -/
structure RetryPolicy where
  /-- Whether a cause of failure passes by itself.  Interruptions and unready resources do. -/
  isTransient : Errno → Bool := fun e => e == .interrupted || e == .tryAgain
  /-- How many transient failures in a row are made up for; without a bound, all are. -/
  maxRetries : Option Nat := none

/-- Whether a call that has been retried `retries` times is made again after failing with `e`. -/
def RetryPolicy.shouldRetry (p : RetryPolicy) (e : Errno) (retries : Nat) : Bool :=
  p.isTransient e && match p.maxRetries with
    | none => true
    | some bound => decide (retries < bound)

/-- What a session is opened with. -/
structure SessionOptions where
  /-- How many bytes are reserved when a message is started. -/
  sendBufferSize : Nat := Header.size
  /-- How many bytes are reserved for each batch from the kernel. -/
  receiveBufferSize : Nat := 4096
  /-- What happens to failed calls. -/
  retry : RetryPolicy := {}

end Rtnetlink
