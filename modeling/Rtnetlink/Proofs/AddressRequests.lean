import Rtnetlink.Proofs.Accepted
import Rtnetlink.Proofs.QuadText

/-!
# Requests for addresses and routes say what was asked for

A request for an interface address or a route has a fixed header and then attributes, and which
attributes it has depends on the arguments: an address that is not given is left out, and so is
0.0.0.0, which stands for none.  What is offered to the kernel decodes to the addresses that were
given, in the order of the kinds, and to nothing else.

* `IPv4.ofBytes?_octets`: an address is read back from its octets;
* `InterfaceAddress.saidBy_of_settles`, `Route.saidBy_of_settles`: what the bodies of the requests
  decode to;
* `Session.asks_for_addresses_and_routes`: what the whole calls come to.
-/

namespace Rtnetlink

open LittleEndian

/-! ## Reading addresses -/

namespace IPv4

/-- The address of four bytes, the most significant first. -/
def ofBytes? : List UInt8 → Option IPv4
  | [a, b, c, d] => some (ofOctets a.toNat b.toNat c.toNat d.toNat)
  | _ => none

/-- An address is read back from its octets. -/
lemma ofBytes?_octets (a : IPv4) : ofBytes? a.octets = some a := by
  have hle : ∀ octet : UInt8, octet.toNat ≤ 255 := fun octet => Nat.le_of_lt_succ octet.toNat_lt
  exact congrArg some ((ofOctets_eq_iff (hle _) (hle _) (hle _) (hle _)).2 rfl)

/-- The attribute that says an address, given by its kind and the address.  There is none if no
address is given or if it is 0.0.0.0. -/
def said (kind : UInt16) (address : Option IPv4) : List (UInt16 × IPv4) :=
  (address.filter (· ≠ unspecified)).toList.map (kind, ·)

lemma said_unspecified (kind : UInt16) : said kind (some unspecified) = [] := rfl

lemma said_of_ne {kind : UInt16} {address : IPv4} (h : address ≠ unspecified) :
    said kind (some address) = [(kind, address)] := by
  have hkeep : (some address).filter (· ≠ unspecified) = some address :=
    Option.filter_eq_some_iff.2 ⟨rfl, decide_eq_true h⟩
  rw [said, hkeep]
  rfl

/-- What such an attribute holds. -/
def entry (given : UInt16 × IPv4) : UInt16 × List UInt8 := (given.1, given.2.octets)

end IPv4

/-- Attributes hold the octets of the given addresses, each under its kind, and the addresses are
read back from them. -/
structure Attribute.Say (attributes : List Attribute) (given : List (UInt16 × IPv4)) : Prop where
  entries : attributes.map Attribute.entry = given.map IPv4.entry
  addresses : attributes.map (fun a => IPv4.ofBytes? a.value) = given.map fun g => some g.2

namespace Attribute

variable {attributes : List Attribute} {given : List (UInt16 × IPv4)}

lemma say_of_entries (h : attributes.map entry = given.map IPv4.entry) : Say attributes given := by
  refine ⟨h, ?_⟩
  have hvalues := congrArg (List.map fun e => IPv4.ofBytes? e.2) h
  rw [List.map_map, List.map_map] at hvalues
  refine hvalues.trans (List.map_congr_left fun g _ => ?_)
  exact IPv4.ofBytes?_octets g.2

lemma fit_octets (given : List (UInt16 × IPv4)) : Fit (given.map IPv4.entry) := by
  intro entry hentry
  obtain ⟨g, -, rfl⟩ := List.mem_map.1 hentry
  rw [IPv4.entry, InterfaceAddress.length_octets]
  decide

end Attribute

/-! ## What the bodies decode to -/

namespace InterfaceAddress

variable {kind : UInt16} {bytes : List UInt8} {index : UInt32} {a : InterfaceAddress}

lemma settles_addressCells {address : IPv4} (h : Settles (addressCells kind address) bytes) :
    bytes = Attribute.encodeAll ((IPv4.said kind (some address)).map IPv4.entry) := by
  by_cases hnone : address = IPv4.unspecified
  · rw [addressCells, hnone, if_pos (by decide)] at h
    rw [hnone, IPv4.said_unspecified]
    exact List.length_eq_zero_iff.1 h.length_eq
  · have hsome : ¬ address.isUnspecified = true := by simpa [IPv4.isUnspecified] using hnone
    rw [addressCells, if_neg hsome] at h
    rw [h.ofAttribute_written, IPv4.said_of_ne hnone]
    simp [Attribute.encodeAll, IPv4.entry]

lemma settles_addressCellsIf {address : Option IPv4}
    (h : Settles (addressCellsIf kind address) bytes) :
    bytes = Attribute.encodeAll ((IPv4.said kind address).map IPv4.entry) := by
  cases address with
  | none => exact List.length_eq_zero_iff.1 h.length_eq
  | some address => exact settles_addressCells h

/-- The addresses that a request to assign an address says. -/
def given (a : InterfaceAddress) : List (UInt16 × IPv4) :=
  IPv4.said AddressAttribute.ownAddress (some a.address)
    ++ (IPv4.said AddressAttribute.address (some a.address)
      ++ (IPv4.said AddressAttribute.broadcast a.broadcast
        ++ IPv4.said AddressAttribute.anycast a.anycast))

/-- Bytes say which address an interface is to have: the header has the prefix, which counts as 32
if it is longer, and the index; behind it the addresses are said and nothing else. -/
structure SaidBy (a : InterfaceAddress) (index : UInt32) (bytes : List UInt8) : Prop where
  header : bytes.take 8 = [Family.inet, min a.prefixLength 32, 0, 0] ++ ofU32 index
  index : toU32 (bytes.drop 4) = index
  attributes : Attribute.Say (AttributeChain.toList { bytes := bytes.drop 8 }) a.given

lemma saidBy_of_settles (h : Settles (a.addCells index) bytes) : a.SaidBy index bytes := by
  obtain ⟨header, back, rfl, hheader, hback⟩ := h.append
  obtain ⟨own, back, rfl, hown, hback⟩ := hback.append
  obtain ⟨address, back, rfl, haddress, hback⟩ := hback.append
  obtain ⟨broadcast, anycast, rfl, hbroadcast, hanycast⟩ := hback.append
  obtain rfl := hheader.eq_of_written
  rw [settles_addressCells hown, settles_addressCells haddress, settles_addressCellsIf hbroadcast,
    settles_addressCellsIf hanycast]
  simp only [← Attribute.encodeAll_append, ← List.map_append]
  constructor
  · exact List.take_left' rfl
  · exact toU32_ofU32_append ..
  · exact Attribute.say_of_entries
      (AttributeChain.toList_behind rfl (Attribute.fit_octets a.given))

end InterfaceAddress

namespace Route

variable {bytes : List UInt8} {r : Route}

/-- The addresses that a request to add a route says. -/
def given (r : Route) : List (UInt16 × IPv4) :=
  (RouteAttribute.destination, r.destination.network)
    :: IPv4.said RouteAttribute.gateway r.gateway

/-- Bytes say which route to add: the header has the length of the destination's prefix; behind it
the addresses are said, then the interface, and nothing else. -/
structure SaidBy (r : Route) (bytes : List UInt8) : Prop where
  header : ∃ prefixLength : UInt8, prefixLength.toNat = r.destination.prefixLength ∧
    bytes.take 12 = [Family.inet, prefixLength, 0, 0, RouteValue.mainTable,
      RouteValue.staticProtocol, RouteValue.universeScope, RouteValue.unicast] ++ ofU32 0
  attributes : ∃ addresses interface,
    AttributeChain.toList { bytes := bytes.drop 12 } = addresses ++ [interface] ∧
    Attribute.Say addresses r.given ∧
    interface.entry = (RouteAttribute.outputInterface, ofU32 r.interface) ∧
    interface.number = .ok r.interface

lemma saidBy_of_settles (h : Settles r.addCells bytes) : r.SaidBy bytes := by
  obtain ⟨header, back, rfl, hheader, hback⟩ := h.append
  obtain ⟨destination, back, rfl, hdestination, hback⟩ := hback.append
  obtain ⟨gateway, interface, rfl, hgateway, hinterface⟩ := hback.append
  have hlength : header.length = 12 := hheader.length_eq.trans (RouteHeader.length_cells _)
  rw [hdestination.ofAttribute_written, InterfaceAddress.settles_addressCellsIf hgateway,
    hinterface.ofAttribute_written]
  -- the interface stands behind the addresses
  have hentries : Attribute.Fit (r.given.map IPv4.entry
      ++ [(RouteAttribute.outputInterface, ofU32 r.interface)]) := by
    refine List.forall_mem_append.2 ⟨Attribute.fit_octets r.given, ?_⟩
    rw [List.forall_mem_singleton, length_ofU32]
    decide
  have hback : Attribute.encode RouteAttribute.destination r.destination.network.octets
      ++ (Attribute.encodeAll ((IPv4.said RouteAttribute.gateway r.gateway).map IPv4.entry)
        ++ Attribute.encode RouteAttribute.outputInterface (ofU32 r.interface))
      = Attribute.encodeAll (r.given.map IPv4.entry
        ++ [(RouteAttribute.outputInterface, ofU32 r.interface)]) := by
    simp [Attribute.encodeAll, given, IPv4.entry]
  rw [hback]
  constructor
  · refine ⟨UInt8.ofNat r.destination.prefixLength, ?_, ?_⟩
    · have hprefix := r.destination.prefixLength_le
      rw [UInt8.toNat_ofNat']
      omega
    · rw [List.take_left' hlength, hheader.eq_of_written]
  · obtain ⟨addresses, last, hchain, haddresses, hlast⟩ :=
      List.map_eq_append_iff.1 (AttributeChain.toList_behind hlength hentries)
    obtain ⟨interface, rfl, hinterface⟩ := List.map_eq_singleton_iff.1 hlast
    exact ⟨addresses, interface, hchain, Attribute.say_of_entries haddresses, hinterface,
      Attribute.number_of_ofU32 (Prod.mk.inj hinterface).2⟩

end Route

/-! ## The whole calls -/

namespace Session

/-- **Requests for addresses and routes say exactly what was asked for.**  Where the kernel takes
the message, a request to assign an address, to take one away or to add a route is sent once, is
refused for no misuse, and decodes to the arguments it was made from. -/
theorem asks_for_addresses_and_routes (s : Session) (k : Nat) (wait : Bool) (hs : s.CanBegin)
    (hk : s.TakesAt k) :
    (∀ (index : UInt32) (a : InterfaceAddress), ∃ message,
      s.Asks MessageType.newAddress (MessageFlag.create ||| MessageFlag.replace) wait k
        (a.add index wait) message ∧
      a.SaidBy index (message.drop Header.size)) ∧
    (∀ index : UInt32, ∃ message,
      s.Asks MessageType.delAddress 0 wait k (InterfaceAddress.remove index wait) message ∧
      message.drop Header.size = [Family.inet, 0, 0, 0] ++ ofU32 index ∧
      AttributeChain.toList { bytes := (message.drop Header.size).drop 8 } = []) ∧
    ∀ r : Route, ∃ message,
      s.Asks MessageType.newRoute (MessageFlag.create ||| MessageFlag.exclusive) wait k
        (r.add wait) message ∧
      r.SaidBy (message.drop Header.size) := by
  refine ⟨fun index a => ?_, fun index => ?_, fun r => ?_⟩
  · have hrequest : (Operation.addAddress index a wait).request? = some _ := rfl
    obtain ⟨message, hasks, hbody⟩ := Operation.asks hs hk hrequest rfl
    exact ⟨message, hasks, InterfaceAddress.saidBy_of_settles hbody⟩
  · have hrequest : (Operation.removeAddress index wait).request? = some {
        type := MessageType.delAddress
        flags := 0 ||| MessageFlag.ackIf wait
        body := AddressHeader.cells { index } } := by
      rw [UInt16.zero_or]
      rfl
    obtain ⟨message, hasks, hbody⟩ := Operation.asks hs hk hrequest rfl
    have hbody := hbody.eq_of_written
    refine ⟨message, hasks, hbody, ?_⟩
    rw [hbody]
    exact AttributeChain.toList_of_remaining_nil rfl
  · have hrequest : (Operation.addRoute r wait).request? = some _ := rfl
    obtain ⟨message, hasks, hbody⟩ := Operation.asks hs hk hrequest rfl
    exact ⟨message, hasks, Route.saidBy_of_settles hbody⟩

/-- Two requests of a session whose first send call is interrupted.  The address 0.0.0.0 is left
out, and a prefix of 40 bits counts as 32. -/
theorem asks_for_addresses_and_routes_of_delayed :
    let a : InterfaceAddress :=
      { address := .unspecified, prefixLength := 40, anycast := some (.ofOctets 10 0 0 9) }
    let r : Route := { destination := .ofAddress (.ofOctets 10 1 2 3) 16, interface := 5 }
    delayed.CanBegin ∧ delayed.TakesAt 1 ∧
      a.given = [(AddressAttribute.anycast, .ofOctets 10 0 0 9)] ∧
      r.given = [(RouteAttribute.destination, .ofOctets 10 1 0 0)] ∧
      (∃ message, delayed.Asks MessageType.newAddress
        (MessageFlag.create ||| MessageFlag.replace) true 1 (a.add 4 true) message ∧
        a.SaidBy 4 (message.drop Header.size)) ∧
      ∃ message, delayed.Asks MessageType.newRoute
        (MessageFlag.create ||| MessageFlag.exclusive) true 1 (r.add true) message ∧
        r.SaidBy (message.drop Header.size) := by
  intro a r
  have hasks := asks_for_addresses_and_routes delayed 1 true canBegin_delayed takesAt_delayed
  exact ⟨canBegin_delayed, takesAt_delayed, by decide, by decide, hasks.1 4 a, hasks.2.2 r⟩

end Session

end Rtnetlink
