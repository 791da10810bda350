import Rtnetlink.Config.Error
import Rtnetlink.Run
import Rtnetlink.Session.Channel

/-!
# The machine: system calls and their log

What the operating system does is not up to this library.  A machine is therefore given by the
outcomes that its system calls will have, by the name of the call, and it keeps a log of the calls
that were made with their arguments and results.  Descriptors are numbered upwards and no number is
used twice.

Each call takes one outcome, whatever its arguments, and succeeds once its outcomes are used up.  A
call that opens a file is made again as long as it is interrupted; no other call is.
-/

namespace Rtnetlink

/-- The system calls whose outcomes can be given. -/
inductive CallName where
  | openFile
  | closeFile
  | removeFile
  | makeDirectory
  | mount
  | unmount
  | enterNamespace
  | newNamespace
  | openSocket
  | bindSocket
  | socketName
  | sendTo
  | deviceControl
deriving DecidableEq, Repr

/-- A system call that was made: its arguments and its result, which is the negative of an error
number if it failed. -/
inductive SystemCall where
  /-- A file was opened, with a mode if it was to be created; the result is a descriptor. -/
  | openFile (path : String) (flags : Nat) (mode : Option Nat) (result : Int)
  /-- A descriptor was closed. -/
  | closeFile (descriptor : Nat) (result : Int)
  /-- A file was removed. -/
  | removeFile (path : String) (result : Int)
  /-- A directory was made. -/
  | makeDirectory (path : String) (mode : Nat) (result : Int)
  /-- Something was mounted. -/
  | mount (source : Option String) (target : String) (type : Option String) (flags : Nat)
      (data : Option String) (result : Int)
  /-- Something was unmounted. -/
  | unmount (path : String) (flags : Nat) (result : Int)
  /-- The calling thread went into the namespace of a descriptor. -/
  | enterNamespace (descriptor : Nat) (type : Nat) (result : Int)
  /-- The calling thread went into a new namespace. -/
  | newNamespace (flags : Nat) (result : Int)
  /-- A socket was created; the result is a descriptor. -/
  | openSocket (domain type protocol : Nat) (result : Int)
  /-- A socket was bound. -/
  | bindSocket (descriptor family portId groups : Nat) (result : Int)
  /-- The port id of a socket was asked for. -/
  | socketName (descriptor : Nat) (result : Int)
  /-- A message was sent to an address; the result is its length. -/
  | sendTo (descriptor : Nat) (message : List UInt8) (flags family portId groups : Nat)
      (result : Int)
  /-- A message was received; the result is its length. -/
  | receiveFrom (descriptor room flags : Nat) (result : Int)
  /-- A device was controlled: the name of an interface, a command and its argument. -/
  | deviceControl (descriptor request : Nat) (name : List UInt8) (command data : Nat)
      (result : Int)
deriving DecidableEq, Repr

/-- A machine, by what its system calls will do and have done. -/
structure Machine where
  /-- The outcomes of the calls to come. -/
  codes : CallName → List CallCode := fun _ => []
  /-- The outcomes of the receive calls to come. -/
  deliveries : List Delivery := []
  /-- The error of every receive call after those. -/
  drained : Int := 104
  /-- The port ids that sockets will be assigned. -/
  portIds : List UInt32 := []
  /-- The port id of every socket after those. -/
  lastPortId : UInt32 := 4242
  /-- What the packet scheduler publishes. -/
  scheduler : List UInt8 := []
  /-- The descriptor that is assigned next. -/
  nextDescriptor : Nat := 100
  /-- The calls made so far, in order. -/
  log : List SystemCall := []

/-- System calls: they change the machine and may fail with an error number. -/
abbrev Calling := Run CallCode Machine

namespace Machine

/-! ## Single calls -/

/-- Takes the outcome of the next call of a name. -/
def takeCode (name : CallName) (m : Machine) : CallCode × Machine :=
  match m.codes name with
  | [] => (0, m)
  | code :: rest =>
    (code, { m with codes := fun other => if other = name then rest else m.codes other })

/-- Makes a call that yields nothing.  It is logged with its result. -/
def call (name : CallName) (entry : Int → SystemCall) : Calling Unit := fun m =>
  let (code, m) := m.takeCode name
  let m := { m with log := m.log ++ [entry (-code)] }
  if code = 0 then .ok () m else .refused code m

/-- Makes a call that yields a new descriptor.  It is logged with its result. -/
def callForDescriptor (name : CallName) (entry : Int → SystemCall) : Calling Nat := fun m =>
  let (code, m) := m.takeCode name
  if code = 0 then
    .ok m.nextDescriptor
      { m with nextDescriptor := m.nextDescriptor + 1, log := m.log ++ [entry m.nextDescriptor] }
  else
    .refused code { m with log := m.log ++ [entry (-code)] }

/-- The error number of a call that was interrupted. -/
def interruption : CallCode := 4

/-- Makes the next calls of a name as long as they are interrupted.  Each is logged with its
result. -/
def passInterruptions {ε : Type} (name : CallName) (entry : Int → SystemCall) :
    Run ε Machine Unit :=
  Run.modify fun m =>
    let tries := (m.codes name).takeWhile (· == interruption)
    let left := (m.codes name).dropWhile (· == interruption)
    { m with
      codes := fun other => if other = name then left else m.codes other
      log := m.log ++ tries.map fun code => entry (-code) }

/-- Makes the call that opens a file, again if it is interrupted.  Yields the descriptor. -/
def openFile (entry : Int → SystemCall) : Calling Nat := do
  passInterruptions .openFile entry
  callForDescriptor .openFile entry

/-- Closes a descriptor. -/
def closeFile (descriptor : Nat) : Calling Unit :=
  call .closeFile (.closeFile descriptor)

/-- Closes a descriptor that is no longer needed; a failure is passed over. -/
def release {ε : Type} (descriptor : Nat) : Run ε Machine Unit := do
  let _ ← Run.attempt (closeFile descriptor)
  pure ()

/-- A call whose error number has been recognised. -/
def recognized {α : Type} (run : Calling α) : Run Errno Machine α :=
  Run.mapCause (fun code : CallCode => Errno.ofNumber code) run

/-- The network namespace type. -/
def networkNamespace : Nat := 0x40000000

/-- Moves the calling thread into the network namespace of a descriptor. -/
def enterNamespace (descriptor : Nat) : Run Errno Machine Unit :=
  recognized (call .enterNamespace (.enterNamespace descriptor networkNamespace))

/-- Moves the calling thread into a new network namespace. -/
def newNamespace : Run Errno Machine Unit :=
  recognized (call .newNamespace (.newNamespace networkNamespace))

/-! ## Paths

A path is handed on as a string with a zero byte at its end, so a path with a zero byte inside is
refused before any call is made. -/

/-- Whether a path can be handed on. -/
def isPath (path : String) : Bool := !path.toList.contains (Char.ofNat 0)

/-- How files are refused at a path that cannot be handed on. -/
def badPath : FileError := .other "file name contained an unexpected NUL byte"

/-- Goes on with a path as files are opened and removed. -/
def withFile {α : Type} (path : String) (run : Calling α) : Run FileError Machine α :=
  if isPath path then
    Run.mapCause .os run
  else
    Run.refuse badPath

/-- Goes on with a path as everything else is called. -/
def withPath {α : Type} (path : String) (run : Calling α) : Run Errno Machine α :=
  if isPath path then recognized run else Run.refuse .invalidArgument

/-- The flag that closes a descriptor when another program is started. -/
def closeOnExec : Nat := 0x80000

/-- Opens a file for reading. -/
def openForReading (path : String) : Run FileError Machine Nat :=
  withFile path (openFile (.openFile path closeOnExec none))

/-- Opens a file for writing and creates it if there is none; if it has to be new, an existing file
is an error. -/
def openForCreating (path : String) (mustBeNew : Bool) : Run FileError Machine Nat :=
  let flags := closeOnExec + 0x1 + 0x40 + (if mustBeNew then 0x80 else 0)
  withFile path (openFile (.openFile path flags (some 0o444)))

/-- Removes a file. -/
def removeFile (path : String) : Run FileError Machine Unit :=
  withFile path (call .removeFile (.removeFile path))

/-- Makes a directory that its owner can write to and everyone can read. -/
def makeDirectory (path : String) : Run Errno Machine Unit :=
  withPath path (call .makeDirectory (.makeDirectory path 0o755))

/-- Binds what is at one path to another. -/
def bindMount (source target : String) : Run Errno Machine Unit :=
  withPath target (call .mount (.mount (some source) target (some "none") 0x1000 none))

/-- Makes the mount at a path, and all below it, shared. -/
def shareMount (target : String) : Run Errno Machine Unit :=
  withPath target (call .mount (.mount (some "") target (some "none") 0x104000 none))

/-- Takes the mount at a path away; it stays alive for those who use it. -/
def unmount (path : String) : Run Errno Machine Unit :=
  withPath path (call .unmount (.unmount path 2))

end Machine

end Rtnetlink
