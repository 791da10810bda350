import Rtnetlink.Os.Socket

/-!
# Named network namespaces

A named namespace is a file in a run directory onto which the namespace is bound, so it lives on
without a process inside it.  Opening one that does not exist creates it, and a failure on the way
undoes what was done: the file is removed, and once something is bound to it, it is unmounted
first.
-/

namespace Rtnetlink

/-- How namespaces are named and what their sessions are opened with. -/
structure NamespaceOptions where
  /-- The directory of the namespace files. -/
  runDirectory : String := "/var/run/netns"
  /-- What is put in front of every name. -/
  namePrefix : String := ""
  /-- The options of the session in each namespace. -/
  session : SessionOptions := {}

namespace NamespaceOptions

/-- A path below a directory.  An empty directory adds nothing. -/
def join (directory file : String) : String :=
  if directory.isEmpty || directory.toList.getLast? == some '/' then
    directory ++ file
  else
    directory ++ "/" ++ file

/-- Whether a name, with what is put in front of it, is the name of a file in the run directory:
one component, and neither the directory itself nor the one above. -/
def isAcceptable (o : NamespaceOptions) (name : String) : Bool :=
  let file := (o.namePrefix ++ name).toList
  !(name.isEmpty || file.contains '/' || file.contains (Char.ofNat 0)
    || file == ['.'] || file == ['.', '.'])

/-- The path of the file of a namespace. -/
def path (o : NamespaceOptions) (name : String) : Except ConfigError String :=
  if o.isAcceptable name then
    .ok (join o.runDirectory (o.namePrefix ++ name))
  else
    .error (.invalidNamespaceName (o.namePrefix ++ name))

end NamespaceOptions

/-- Steps that change the machine's configuration and may fail. -/
abbrev Administering := Run ConfigError Machine

/-- An open namespace with a session inside it. -/
structure NetworkNamespace where
  /-- Its name. -/
  name : String
  /-- The path of its file. -/
  path : String
  /-- The descriptor of its file. -/
  file : Nat
  /-- The session inside it. -/
  bound : BoundSession

namespace NetworkNamespace

/-- Where the kernel shows the namespace of the calling thread. -/
def ownPath : String := "/proc/thread-self/ns/net"

/-- Where the kernel shows the namespace the machine was started in. -/
def defaultPath : String := "/proc/1/ns/net"

/-- Goes on with the path of a namespace. -/
def withPath {α : Type} (o : NamespaceOptions) (name : String)
    (next : String → Administering α) : Administering α :=
  match o.path name with
  | .error cause => Run.refuse cause
  | .ok path => next path

/-- Makes the run directory a shared mount.  A directory that is no mount yet is bound to itself
first. -/
def setupEnvironment (o : NamespaceOptions) : Administering Unit := do
  match ← Run.attempt (Machine.makeDirectory o.runDirectory) with
  | .ok () => pure ()
  | .error errno => if errno = .fileExists then pure () else Run.refuse (.call errno)
  match ← Run.attempt (Machine.shareMount o.runDirectory) with
  | .ok () => pure ()
  | .error errno =>
    if errno = .invalidArgument then do
      Run.mapCause .call (Machine.bindMount o.runDirectory o.runDirectory)
      Run.mapCause .call (Machine.shareMount o.runDirectory)
    else
      Run.refuse (.call errno)

/-- Removes a file whose namespace could not be made; a failure is passed over. -/
def discard (path : String) : Administering Unit := do
  let _ ← Run.attempt (Machine.removeFile path)
  pure ()

/-- Creates the file, moves the calling thread into a new namespace, and binds the two. -/
def create (path : String) (exclusive : Bool) : Administering Unit := do
  let file ← Run.mapCause .file (Machine.openForCreating path exclusive)
  Machine.release file
  match ← Run.attempt Machine.newNamespace with
  | .error errno => do
    discard path
    Run.refuse (.call errno)
  | .ok () => do
    match ← Run.attempt (Machine.bindMount ownPath path) with
    | .error errno => do
      discard path
      Run.refuse (.call errno)
    | .ok () => pure ()

/-- Unmounts a namespace and then removes its file. -/
def remove (path : String) : Administering Unit := do
  Run.mapCause .call (Machine.unmount path)
  Run.mapCause .file (Machine.removeFile path)

/-- Removes a namespace that was made in vain; a failure is passed over. -/
def rollback (path : String) : Administering Unit := do
  let _ ← (Run.attempt (remove path) : Administering (Except ConfigError Unit))
  pure ()

/-- Enters an existing namespace by the descriptor of its file, which is closed on failure. -/
def enterExisting (file : Nat) : Administering Nat := do
  match ← Run.attempt (Machine.enterNamespace file) with
  | .ok () => pure file
  | .error errno => do
    Machine.release file
    Run.refuse (.call errno)

/-- Makes a namespace and opens its file.  What was opened before the namespace was bound to the
file would not refer to it. -/
def make (path : String) (exclusive : Bool) : Administering Nat := do
  create path exclusive
  match ← Run.attempt (Machine.openForReading path) with
  | .ok file => pure file
  | .error cause => do
    rollback path
    Run.refuse (.file cause)

/-- Opens a session in the namespace that the calling thread is in.  If that fails, a namespace that
was made for it is taken back. -/
def connect (name path : String) (file : Nat) (made : Bool) (o : NamespaceOptions) :
    Administering NetworkNamespace := do
  -- a halt closes the file too, but takes nothing back
  let connected ← Run.attempt (Run.onHalt (Machine.release file) (BoundSession.connect o.session))
  match connected with
  | .ok bound => pure { name, path, file, bound }
  | .error cause => do
    if made then rollback path else pure ()
    Machine.release file
    Run.refuse (.session cause)

/-- Looks for the file of a namespace and opens it; an exclusive opening does not look. -/
def lookUp (path : String) (exclusive : Bool) : Administering (Option Nat) :=
  if exclusive then pure none
  else do
    -- whatever the cause, a file that cannot be opened is taken to be missing
    let opened ← Run.attempt (Machine.openForReading path)
    pure opened.toOption

/-- Opens the namespace of a name and makes it if there is none; an exclusive opening always makes
it.  The calling thread is left inside. -/
def openOrMake (name : String) (exclusive : Bool) (o : NamespaceOptions) :
    Administering NetworkNamespace :=
  withPath o name fun path => do
    let existing ← lookUp path exclusive
    let file ←
      match existing with
      | some file => enterExisting file
      | none => make path exclusive
    connect name path file existing.isNone o

/-- Moves the calling thread into the namespace. -/
def enter (n : NetworkNamespace) : Administering Unit :=
  Run.mapCause .call (Machine.enterNamespace n.file)

/-- Closes the session and then the file.  Only a failure of the first is reported; the namespace
itself lives on. -/
def close (n : NetworkNamespace) : Administering Unit := do
  let closed ← Run.attempt n.bound.close
  Machine.release n.file
  match closed with
  | .ok () => pure ()
  | .error cause => Run.refuse (.session cause)

/-- Lets go of the namespace: its file is closed, then its socket, and failures are passed over. -/
def release (n : NetworkNamespace) : Administering Unit := do
  Machine.release n.file
  Machine.release n.bound.socket

/-- Deletes the namespace of a name. -/
def delete (name : String) (o : NamespaceOptions) : Administering Unit :=
  withPath o name remove

/-- Moves the calling thread into the namespace the machine was started in. -/
def enterDefault : Administering Unit := do
  let file ← Run.mapCause .file (Machine.openForReading defaultPath)
  let entered ← Run.attempt (Machine.enterNamespace file)
  Machine.release file
  match entered with
  | .ok () => pure ()
  | .error errno => Run.refuse (.call errno)

end NetworkNamespace

end Rtnetlink
