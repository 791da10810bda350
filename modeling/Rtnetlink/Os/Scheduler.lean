import Rtnetlink.Os.Namespace
import Rtnetlink.Shaping.Clock

/-!
# Reading the packet scheduler's clock

The kernel publishes the clock in a file, which is read as text.
-/

namespace Rtnetlink

namespace Clock

/-- Reads the clock that the kernel publishes. -/
def read : Administering Clock := do
  let file ← Run.mapCause .file (Machine.openForReading path)
  Machine.release file
  let m ← Run.state
  match Text.ofUtf8? m.scheduler with
  | none => Run.refuse (.file (.other "stream did not contain valid UTF-8"))
  | some text =>
    match parse text with
    | .ok clock => pure clock
    | .error shown => Run.refuse (.scheduler shown)

end Clock

end Rtnetlink
