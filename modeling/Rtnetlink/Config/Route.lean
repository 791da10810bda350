import Rtnetlink.Address.Subnet
import Rtnetlink.Config.InterfaceAddress

/-!
# Static routes

Requests that add IPv4 routes to the main table.
-/

namespace Rtnetlink

open LittleEndian

/-- A static route. -/
structure Route where
  /-- The network it leads to. -/
  destination : Subnet
  /-- The next hop, if the network is not reached directly. -/
  gateway : Option IPv4 := none
  /-- The index of the interface it leaves through. -/
  interface : UInt32

namespace Route

/-- Adds a route, which must not exist yet. -/
def add (r : Route) (wait : Bool) : Configuring Unit := do
  Session.begin MessageType.newRoute
    (MessageFlag.create ||| MessageFlag.exclusive ||| MessageFlag.ackIf wait)
  Session.configure do
    Draft.appendCells (RouteHeader.cells
      { destinationPrefix := UInt8.ofNat r.destination.prefixLength })
    Draft.addAttribute RouteAttribute.destination r.destination.network.octets
    InterfaceAddress.attachIf RouteAttribute.gateway r.gateway
    Draft.addAttribute RouteAttribute.outputInterface (ofU32 r.interface)
  Session.dispatch wait

end Route

end Rtnetlink
