import Rtnetlink.Config.Error
import Rtnetlink.Session.Answer

/-!
# Interfaces: virtual pairs, names and states

Requests about links.  An interface name is one to fifteen bytes without a zero byte, and goes into
a message with a zero byte at its end.
-/

namespace Rtnetlink

open LittleEndian

/-- Configuration steps: they change a session and may fail. -/
abbrev Configuring := Run ConfigError Session

namespace Session

/-- Composes the message; a misuse is an error of the configuration. -/
def configure {α : Type} (run : Run Misuse Draft α) : Configuring α :=
  Run.mapCause .session (compose run)

/-- Sends the message and, if asked for, waits until the kernel has answered. -/
def dispatch (wait : Bool) : Configuring Unit := Run.mapCause .session (submit wait)

end Session

namespace Interface

/-- The greatest length of a name in bytes. -/
def maxNameLength : Nat := 15

/-- The bytes of an acceptable name with a zero byte behind them. -/
def encodeName (name : String) : Except ConfigError (List UInt8) :=
  let bytes := Text.utf8 name
  if bytes = [] ∨ maxNameLength < bytes.length ∨ 0 ∈ bytes then
    .error (.invalidInterfaceName name)
  else
    .ok (bytes ++ [0])

/-- Goes on with the encoded form of an acceptable name. -/
def withName {α : Type} (name : String) (next : List UInt8 → Configuring α) : Configuring α :=
  match encodeName name with
  | .error cause => Run.refuse cause
  | .ok encoded => next encoded

/-- One end of a virtual pair. -/
structure VethEnd where
  /-- The name of the interface. -/
  name : String
  /-- The descriptor of the namespace the interface is placed in. -/
  namespaceFd : Int32

/-- The body of a request for a virtual pair: two ends that name their interfaces and
namespaces, the second one inside the information about the first. -/
def vethBody (firstName : List UInt8) (firstFd : Int32) (secondName : List UInt8)
    (secondFd : Int32) : Run Misuse Draft Unit := do
  let header : LinkHeader := { changeMask := 0xFFFFFFFF }
  Draft.appendCells header.cells
  Draft.addAttribute LinkAttribute.name firstName
  Draft.addAttribute LinkAttribute.namespaceFd (ofI32 firstFd)
  Draft.nest LinkAttribute.info do
    Draft.addAttribute LinkAttribute.infoKind (Text.utf8 "veth")
    Draft.nest LinkAttribute.infoData do
      Draft.nest LinkAttribute.vethPeer do
        Draft.appendCells header.cells
        Draft.addAttribute LinkAttribute.name secondName
        Draft.addAttribute LinkAttribute.namespaceFd (ofI32 secondFd)

/-- Creates a pair of connected virtual interfaces, each in its namespace.  Both names are checked
before anything else happens. -/
def createVethPair (first second : VethEnd) (wait : Bool) : Configuring Unit :=
  withName first.name fun firstName =>
  withName second.name fun secondName => do
    Session.begin MessageType.newLink
      (MessageFlag.create ||| MessageFlag.exclusive ||| MessageFlag.ackIf wait)
    Session.configure (vethBody firstName first.namespaceFd secondName second.namespaceFd)
    Session.dispatch wait

/-- The error of a link record that is shorter than its header. -/
def shortLinkText (length : Nat) : String :=
  "Decode error occurred: invalid LinkMessageBuffer: length " ++ toString length ++ " < 16"

/-- Notes the interface index of a link record; other records are passed over. -/
def noteIndex (index : Option UInt32) (response : Response) : Option UInt32 × Option String :=
  if response.type = MessageType.newLink then
    if response.payload.length < LinkHeader.size then
      (index, some (shortLinkText response.payload.length))
    else
      (some (toU32 (response.payload.drop 4)), none)
  else
    (index, none)

/-- Asks for the link of the given name and notes its index. -/
def askIndex : Configuring (Option UInt32) := fun s =>
  match Session.sendWith noteIndex (s, none) with
  | .ok () (s, index) => .ok index s
  | .refused cause (s, _) => .refused (.session cause) s
  | .halted fault (s, _) => .halted fault s

/-- Asks for the link of the given name and yields its index.  The kernel has to name one that is
not zero. -/
def learnIndex (name : String) : Configuring UInt32 := do
  match ← Run.attempt askIndex with
  -- the kernel's way to say that there is no such interface
  | .error (.session (.kernel errno)) =>
    if errno = .noSuchDevice then
      Run.refuse (.interfaceNotFound name)
    else
      Run.refuse (.session (.kernel errno))
  | .error cause => Run.refuse cause
  | .ok none => Run.refuse (.interfaceNotFound name)
  | .ok (some index) =>
    if index = 0 then Run.refuse (.interfaceNotFound name) else pure index

/-- The index of the interface of a name. -/
def indexOf (name : String) : Configuring UInt32 :=
  withName name fun encoded => do
    Session.begin MessageType.getLink 0
    Session.configure do
      Draft.appendCells (LinkHeader.cells {})
      Draft.addAttribute LinkAttribute.name encoded
    learnIndex name

/-- Brings the interface of an index up or down. -/
def setUp (index : UInt32) (up : Bool) (wait : Bool) : Configuring Unit := do
  Session.begin MessageType.newLink (MessageFlag.ackIf wait)
  Session.configure (Draft.appendCells (LinkHeader.cells
    { index, flags := if up then interfaceUp else 0, changeMask := interfaceUp }))
  Session.dispatch wait

end Interface

end Rtnetlink
