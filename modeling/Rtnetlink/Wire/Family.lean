import Rtnetlink.Bytes
import Rtnetlink.Wire.Protocol

/-!
# Family headers

The payload of a request starts with a fixed header that depends on what the request is about: a
link, an address, a route or a queueing discipline.  Some of these headers have reserved bytes,
which are left as they are found; a header is therefore a row of cells, and its reserved bytes are
gaps.
-/

namespace Rtnetlink

open LittleEndian

/-- A row of reserved bytes. -/
def reserved (count : Nat) : List Cell := List.replicate count none

/-- The header of a request about a link. -/
structure LinkHeader where
  /-- The index of the interface; zero for none. -/
  index : UInt32 := 0
  /-- The flags to set. -/
  flags : UInt32 := 0
  /-- Which flags are meant. -/
  changeMask : UInt32 := 0
deriving DecidableEq, Repr

namespace LinkHeader

/-- The size of a link header. -/
def size : Nat := 16

/-- The cells of a link header: no family, one reserved byte, no link type, and the fields. -/
def cells (h : LinkHeader) : List Cell :=
  written [Family.unspecified] ++ (reserved 1
    ++ written (ofU16 0 ++ (ofU32 h.index ++ (ofU32 h.flags ++ ofU32 h.changeMask))))

end LinkHeader

/-- The header of a request about an interface address. -/
structure AddressHeader where
  /-- The length of the network's prefix. -/
  prefixLength : UInt8 := 0
  /-- The index of the interface. -/
  index : UInt32 := 0
deriving DecidableEq, Repr

namespace AddressHeader

/-- The size of an address header. -/
def size : Nat := 8

/-- The cells of an address header: IPv4, the prefix, no flags, universal scope, the interface. -/
def cells (h : AddressHeader) : List Cell :=
  written ([Family.inet, h.prefixLength, 0, 0] ++ ofU32 h.index)

end AddressHeader

/-- The header of a request about a static IPv4 route of the main table. -/
structure RouteHeader where
  /-- The length of the destination's prefix. -/
  destinationPrefix : UInt8 := 0
deriving DecidableEq, Repr

namespace RouteHeader

/-- The size of a route header. -/
def size : Nat := 12

/-- The cells of a route header: IPv4, the destination's prefix, no source prefix, no type of
service, then table, protocol, scope and type, and no flags. -/
def cells (h : RouteHeader) : List Cell :=
  written ([Family.inet, h.destinationPrefix, 0, 0, RouteValue.mainTable,
    RouteValue.staticProtocol, RouteValue.universeScope, RouteValue.unicast] ++ ofU32 0)

end RouteHeader

/-- The header of a request about a queueing discipline. -/
structure QdiscHeader where
  /-- The index of the interface, as a signed number. -/
  index : Int32 := 0
  /-- The discipline's own handle. -/
  handle : UInt32 := 0
  /-- The handle of what it hangs below. -/
  parent : UInt32 := 0
deriving DecidableEq, Repr

namespace QdiscHeader

/-- The size of a discipline header. -/
def size : Nat := 20

/-- The cells of a discipline header: no family, three reserved bytes, the fields, no
information. -/
def cells (h : QdiscHeader) : List Cell :=
  written [Family.unspecified] ++ (reserved 3
    ++ written (ofI32 h.index ++ (ofU32 h.handle ++ (ofU32 h.parent ++ ofU32 0))))

end QdiscHeader

end Rtnetlink
