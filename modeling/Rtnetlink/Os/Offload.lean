import Rtnetlink.Config.Interface
import Rtnetlink.Os.Namespace

/-!
# Receive offload

A setting of an interface that is reached by a device request instead of a message.
-/

namespace Rtnetlink

namespace Interface

/-- A name as a device request carries it: sixteen bytes, filled up with zeros. -/
def requestName (name : String) : List UInt8 :=
  let bytes := Text.utf8 name
  bytes ++ List.replicate (16 - bytes.length) 0

/-- The device request for commands of the interface hardware. -/
def hardwareRequest : Nat := 0x8946

/-- The command that sets generic receive offload. -/
def setOffloadCommand : Nat := 0x2C

/-- Turns generic receive offload on or off for the interface of a name. -/
def setOffload (name : String) (enabled : Bool) : Administering Unit :=
  match encodeName name with
  | .error cause => Run.refuse cause
  | .ok _ => do
    let socket ← Run.mapCause .call (Machine.recognized
      (Machine.callForDescriptor .openSocket (.openSocket 2 (Machine.closeOnExec + 2) 0)))
    let done ← Run.attempt (Machine.recognized
      (Machine.call .deviceControl (.deviceControl socket hardwareRequest (requestName name)
        setOffloadCommand enabled.toNat)))
    Machine.release socket
    match done with
    | .ok () => pure ()
    | .error errno =>
      if errno = .noSuchDevice then
        Run.refuse (.interfaceNotFound name)
      else
        Run.refuse (.call errno)

end Interface

end Rtnetlink
