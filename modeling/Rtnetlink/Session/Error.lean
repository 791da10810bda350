import Rtnetlink.Draft
import Rtnetlink.Errno

/-!
# What can go wrong in a session

Every error of a session has a cause, a text, a coarse class and, where the operating system or the
kernel gave one, an error number.
-/

namespace Rtnetlink

/-- The step at which opening a session failed. -/
inductive SetupStep where
  /-- Creating the socket. -/
  | socket
  /-- Binding it to a port id. -/
  | bind
  /-- Reading back the port id that the kernel assigned. -/
  | portName
deriving DecidableEq, Repr

/-- What a setup step does, as its error says it. -/
def SetupStep.verb : SetupStep → String
  | .socket => "open"
  | .bind => "bind"
  | .portName => "retrieve the kernel-assigned address of"

/-- Why a session could not do what it was asked for. -/
inductive SessionError where
  /-- The session could not be opened. -/
  | setup (step : SetupStep) (errno : Errno)
  /-- The caller broke a contract. -/
  | misuse (cause : Misuse)
  /-- The kernel rejected the request. -/
  | kernel (errno : Errno)
  /-- The kernel closed the channel. -/
  | closed
  /-- The answer did not come from a routing-protocol address. -/
  | wrongAddress
  /-- The answer cannot be decoded. -/
  | malformed (cause : Malformed)
  /-- A call on the channel failed. -/
  | io (errno : Errno)
  /-- The handler of an answer failed with a text of its own. -/
  | handler (text : String)
deriving DecidableEq, Repr

/-- The coarse class of a session error. -/
inductive ErrorClass where
  /-- The session does not exist. -/
  | setup
  /-- The caller is wrong. -/
  | misuse
  /-- The kernel said no. -/
  | kernel
  /-- The channel cannot be used any more. -/
  | transport
  /-- The handler gave up. -/
  | handler
deriving DecidableEq, Repr

namespace SessionError

/-- The text of a session error. -/
def message : SessionError → String
  | .setup step errno => "failed to " ++ step.verb ++ " netlink socket: " ++ errno.message
  | .misuse cause => "BUG: " ++ cause.message
  | .kernel errno => "netlink-reported error: " ++ errno.message
  | .closed => "netlink socket was closed by the kernel"
  | .wrongAddress => "netlink response used wrong address protocol"
  | .malformed cause => "malformed netlink response: " ++ cause.message
  | .io errno => "netlink socket error: " ++ errno.message
  | .handler text => "response handler error: " ++ text

/-- The class of a session error. -/
def errorClass : SessionError → ErrorClass
  | .setup .. => .setup
  | .misuse _ => .misuse
  | .kernel _ => .kernel
  | .closed | .wrongAddress | .malformed _ | .io _ => .transport
  | .handler _ => .handler

/-- The error number of a session error, if it has one. -/
def osError? : SessionError → Option Int
  | .setup _ errno | .kernel errno | .io errno => some errno.number
  | .misuse _ | .closed | .wrongAddress | .malformed _ | .handler _ => none

/-- The error as a plain input/output error: only its number is kept if it has one, otherwise only
its text. -/
def asIo (e : SessionError) : Int ⊕ String :=
  match e.osError? with
  | some number => .inl number
  | none => .inr e.message

end SessionError

end Rtnetlink
