/-!
# Numbers of the routing protocol

The message types, flags, attribute kinds and header values that the kernel's headers define for
configuring links, addresses, routes and queueing disciplines.
-/

namespace Rtnetlink

/-! ## Sizes -/

/-- The size of a message header. -/
def Header.size : Nat := 16

/-- The size of an attribute header. -/
def AttributeHeader.size : Nat := 4

/-! ## Message types -/

namespace MessageType

/-- A status report: an acknowledgment or an error. -/
def error : UInt16 := 2
/-- The end of an answer in several parts. -/
def done : UInt16 := 3
/-- A new or changed link. -/
def newLink : UInt16 := 16
/-- A question about links. -/
def getLink : UInt16 := 18
/-- A new interface address. -/
def newAddress : UInt16 := 20
/-- A removed interface address. -/
def delAddress : UInt16 := 21
/-- A new route. -/
def newRoute : UInt16 := 24
/-- A new queueing discipline. -/
def newQdisc : UInt16 := 36

end MessageType

/-! ## Header flags -/

namespace MessageFlag

/-- The message is a request. -/
def request : UInt16 := 1
/-- An acknowledgment is asked for. -/
def ack : UInt16 := 4
/-- Replace an existing object. -/
def replace : UInt16 := 0x100
/-- Fail if the object exists. -/
def exclusive : UInt16 := 0x200
/-- Create the object if it does not exist. -/
def create : UInt16 := 0x400

/-- The flag that asks for an acknowledgment, where one is wanted. -/
def ackIf (wanted : Bool) : UInt16 := if wanted then ack else 0

end MessageFlag

/-! ## Address families -/

namespace Family

/-- No particular family. -/
def unspecified : UInt8 := 0
/-- IPv4. -/
def inet : UInt8 := 2

end Family

/-! ## Links -/

namespace LinkAttribute

/-- The interface's name. -/
def name : UInt16 := 3
/-- The kind of link and what it needs. -/
def info : UInt16 := 18
/-- The network namespace to place the link in, by descriptor. -/
def namespaceFd : UInt16 := 28
/-- Inside the link information: the kind. -/
def infoKind : UInt16 := 1
/-- Inside the link information: what the kind needs. -/
def infoData : UInt16 := 2
/-- Inside the data of a virtual pair: the other end. -/
def vethPeer : UInt16 := 1

end LinkAttribute

/-- The link flag of an interface that is administratively up. -/
def interfaceUp : UInt32 := 1

/-! ## Addresses -/

namespace AddressAttribute

/-- The address of the interface's network. -/
def address : UInt16 := 1
/-- The address of the interface itself. -/
def ownAddress : UInt16 := 2
/-- The broadcast address. -/
def broadcast : UInt16 := 4
/-- The anycast address. -/
def anycast : UInt16 := 5

end AddressAttribute

/-! ## Routes -/

namespace RouteAttribute

/-- The network a route leads to. -/
def destination : UInt16 := 1
/-- The index of the interface a route leaves through. -/
def outputInterface : UInt16 := 4
/-- The next hop. -/
def gateway : UInt16 := 5

end RouteAttribute

namespace RouteValue

/-- The main routing table. -/
def mainTable : UInt8 := 254
/-- Routes set by an administrator. -/
def staticProtocol : UInt8 := 4
/-- Routes to anywhere. -/
def universeScope : UInt8 := 0
/-- Routes to single hosts. -/
def unicast : UInt8 := 1

end RouteValue

/-! ## Queueing disciplines -/

namespace QdiscAttribute

/-- The discipline's kind. -/
def kind : UInt16 := 1
/-- What the discipline needs. -/
def options : UInt16 := 2
/-- Inside the options of a network emulator: its rate limit. -/
def netemRate : UInt16 := 6

end QdiscAttribute

/-- The parent of a discipline at the root of an interface. -/
def rootHandle : UInt32 := 0xFFFFFFFF

end Rtnetlink
