import Rtnetlink.Session.Error
import Rtnetlink.Text.Quoted

/-!
# What can go wrong when the network is configured

A configuration step fails in its session, at a file, at another system call, or because a name or
a parameter is not acceptable.
-/

namespace Rtnetlink

/-- Why a file could not be used. -/
inductive FileError where
  /-- The operating system gave an error number. -/
  | os (number : Int)
  /-- The request was refused before it reached the operating system, for a stated reason. -/
  | other (reason : String)
deriving DecidableEq, Repr

/-- The text of a file error. -/
def FileError.message : FileError → String
  | .os number => Errno.libraryText number ++ " (os error " ++ toString number ++ ")"
  | .other reason => reason

/-- Why the network could not be configured as asked for. -/
inductive ConfigError where
  /-- The session failed. -/
  | session (cause : SessionError)
  /-- A file could not be used. -/
  | file (cause : FileError)
  /-- A system call failed. -/
  | call (errno : Errno)
  /-- A name is no name for a namespace. -/
  | invalidNamespaceName (name : String)
  /-- A name is no name for an interface. -/
  | invalidInterfaceName (name : String)
  /-- There is no interface of that name. -/
  | interfaceNotFound (name : String)
  /-- The published clock of the packet scheduler cannot be read. -/
  | scheduler (text : String)
deriving DecidableEq, Repr

namespace ConfigError

/-- The text of a configuration error. -/
def message : ConfigError → String
  | .session cause => "netlink error: " ++ cause.message
  | .file cause => "io error: " ++ cause.message
  | .call errno => "nix error: " ++ errno.message
  | .invalidNamespaceName name => "invalid namespace name " ++ Text.Quoted.encode name
  | .invalidInterfaceName name => "invalid interface name " ++ Text.Quoted.encode name
  | .interfaceNotFound name => "interface " ++ Text.Quoted.encode name ++ " not found"
  | .scheduler text => "invalid packet scheduler parameters: " ++ text

/-- The error number of a configuration error, if it has one. -/
def osError? : ConfigError → Option Int
  | .session cause => cause.osError?
  | .file (.os number) => some number
  | .call errno => some errno.number
  | .file (.other _) | .invalidNamespaceName _ | .invalidInterfaceName _ | .interfaceNotFound _
  | .scheduler _ => none

end ConfigError

end Rtnetlink
