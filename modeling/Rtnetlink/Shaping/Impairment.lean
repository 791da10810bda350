import Rtnetlink.Shaping.Clock
import Rtnetlink.Wire.Netem

/-!
# Egress impairments

The delay, jitter, loss and rate limit of one interface, and the emulator options they make.
-/

namespace Rtnetlink

/-- What happens to the packets that leave an interface. -/
structure Impairment where
  /-- A fixed delay in milliseconds. -/
  delay : Float := 0.0
  /-- The variation of the delay in milliseconds. -/
  jitter : Float := 0.0
  /-- The share of lost packets, between 0 and 1. -/
  loss : Float := 0.0
  /-- The rate limit in megabits per second; unlimited unless it is positive. -/
  rate : Float := 0.0
  /-- The length of the queue in packets; zero stands for the default. -/
  queueLength : UInt32 := 1000

namespace Impairment

/-- The queue length where none is given. -/
def defaultQueueLength : UInt32 := 1000

/-- A share brought into the range from 0 to 1.  What is not a number stays as it is. -/
def share (x : Float) : Float := if x < 0.0 then 0.0 else if x > 1.0 then 1.0 else x

/-- The fixed emulator options. -/
def options (i : Impairment) (clock : Clock) : NetemOptions where
  latency := clock.ticks i.delay
  jitter := clock.ticks i.jitter
  loss := Clock.toWord (share i.loss * 4294967295.0)
  limit := if i.queueLength = 0 then defaultQueueLength else i.queueLength

/-- The rate limit in bytes per second, if there is one. -/
def rateLimit? (i : Impairment) : Option NetemRate :=
  if i.rate > 0.0 then
    some { rate := Clock.toWord (i.rate * 1000000.0 / 8.0) }
  else
    none

end Impairment

end Rtnetlink
