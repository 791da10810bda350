import Rtnetlink.Address.IPv4
import Rtnetlink.Config.Interface

/-!
# Addresses of interfaces

Requests that assign an IPv4 address to an interface or take it away.  The address 0.0.0.0 stands
for no address and is left out of a request.
-/

namespace Rtnetlink

/-- An IPv4 address to assign to an interface. -/
structure InterfaceAddress where
  /-- The address. -/
  address : IPv4
  /-- The length of the network's prefix; more than 32 counts as 32. -/
  prefixLength : UInt8
  /-- The broadcast address, if one is given. -/
  broadcast : Option IPv4 := none
  /-- The anycast address, if one is given. -/
  anycast : Option IPv4 := none
deriving DecidableEq, Repr

namespace InterfaceAddress

/-- An address in a network with the given prefix length, which is at most 32. -/
def ofAddress (address : IPv4) (prefixLength : UInt8) : InterfaceAddress :=
  { address, prefixLength := min prefixLength 32 }

/-- Appends an attribute with an address, unless it stands for none. -/
def attach (kind : UInt16) (address : IPv4) : Run Misuse Draft Unit :=
  if address.isUnspecified then pure () else Draft.addAttribute kind address.octets

/-- Appends an attribute with an address, if one is given. -/
def attachIf (kind : UInt16) : Option IPv4 → Run Misuse Draft Unit
  | some address => attach kind address
  | none => pure ()

/-- Assigns an address to the interface of an index, replacing the same address. -/
def add (index : UInt32) (a : InterfaceAddress) (wait : Bool) : Configuring Unit := do
  Session.begin MessageType.newAddress
    (MessageFlag.create ||| MessageFlag.replace ||| MessageFlag.ackIf wait)
  Session.configure do
    Draft.appendCells (AddressHeader.cells { prefixLength := min a.prefixLength 32, index })
    attach AddressAttribute.ownAddress a.address
    attach AddressAttribute.address a.address
    attachIf AddressAttribute.broadcast a.broadcast
    attachIf AddressAttribute.anycast a.anycast
  Session.dispatch wait

/-- Takes the IPv4 address of the interface of an index away. -/
def remove (index : UInt32) (wait : Bool) : Configuring Unit := do
  Session.begin MessageType.delAddress (MessageFlag.ackIf wait)
  Session.configure (Draft.appendCells (AddressHeader.cells { index }))
  Session.dispatch wait

end InterfaceAddress

end Rtnetlink
