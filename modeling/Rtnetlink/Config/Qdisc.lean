import Rtnetlink.Config.Interface
import Rtnetlink.Shaping.Impairment

/-!
# Queueing disciplines

Requests that install the network emulator at the root of an interface.
-/

namespace Rtnetlink

namespace Qdisc

/-- The handle of the installed discipline: major number one, minor number zero. -/
def netemHandle : UInt32 := 0x10000

/-- The body of a request for an emulator: its kind, and options that end with the rate limit if
there is one. -/
def netemBody (index : UInt32) (options : NetemOptions) (rate : Option NetemRate) :
    Run Misuse Draft Unit := do
  Draft.appendCells (QdiscHeader.cells
    { index := index.toInt32, handle := netemHandle, parent := rootHandle })
  Draft.addAttribute QdiscAttribute.kind (Text.utf8 "netem" ++ [0])
  Draft.nest QdiscAttribute.options do
    Draft.appendCells (written options.encode)
    match rate with
    | some rate => Draft.addAttributeCells QdiscAttribute.netemRate (written rate.encode)
    | none => pure ()

/-- Installs or replaces the emulator of the interface of an index. -/
def shape (clock : Clock) (index : UInt32) (impairment : Impairment) (wait : Bool) :
    Configuring Unit := do
  Session.begin MessageType.newQdisc
    (MessageFlag.create ||| MessageFlag.replace ||| MessageFlag.ackIf wait)
  Session.configure (netemBody index (impairment.options clock) impairment.rateLimit?)
  Session.dispatch wait

end Qdisc

end Rtnetlink
