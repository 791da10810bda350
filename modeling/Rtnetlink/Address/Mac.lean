import Rtnetlink.Address.Error
import Rtnetlink.Bytes
import Rtnetlink.Text.Numeral
import Rtnetlink.Text.Split

/-!
# MAC addresses

A MAC address is six octets.  Its text has six groups of hexadecimal digits with colons between
them; two digits are written for each octet, and one or two are read.  Addresses are handed out in
ascending order of the 48-bit number they stand for, without starting over.
-/

namespace Rtnetlink

/-- A MAC address. -/
structure Mac where
  /-- The octets, the most significant first. -/
  octets : List UInt8
  /-- There are six of them. -/
  length_octets : octets.length = 6
deriving DecidableEq, Repr

namespace Mac

/-- The address with all octets zero. -/
def zero : Mac := ⟨List.replicate 6 0, rfl⟩

/-- The octets of the next greater number, the most significant first; there are none behind the
greatest. -/
def successor? : List UInt8 → Option (List UInt8)
  | [] => none
  | octet :: rest =>
    match successor? rest with
    | some rest => some (octet :: rest)
    | none =>
      if octet = 255 then none else some ((octet + 1) :: List.replicate rest.length 0)

theorem length_of_successor? {octets next : List UInt8} (h : successor? octets = some next) :
    next.length = octets.length := by
  induction octets generalizing next with
  | nil => cases h
  | cons octet rest ih =>
    unfold successor? at h
    split at h
    · next rest' hrest =>
      cases h
      simp [ih hrest]
    · split at h
      · cases h
      · cases h
        simp

/-- The number that octets stand for, the most significant first. -/
def number : List UInt8 → Nat
  | [] => 0
  | octet :: rest => octet.toNat * byteLimit rest.length + number rest

/-- The 48-bit number of an address. -/
def toNat (m : Mac) : Nat := number m.octets

/-- The address that follows, if there is one. -/
def next? (m : Mac) : Option Mac :=
  match h : successor? m.octets with
  | some octets => some ⟨octets, (length_of_successor? h).trans m.length_octets⟩
  | none => none

/-- The address `count` places further on, if there is one. -/
def skip? : (count : Nat) → Mac → Option Mac
  | 0, m => some m
  | count + 1, m =>
    match m.next? with
    | none => none
    | some following => skip? count following

/-- At most `count` addresses in order from one on, and the address after them. -/
def take : (count : Nat) → Option Mac → List Mac × Option Mac
  | 0, m => ([], m)
  | _, none => ([], none)
  | count + 1, some m =>
    let (rest, after) := take count m.next?
    (m :: rest, after)

/-- The characters of an address's text. -/
def toChars (m : Mac) : List Char := List.intercalate [':'] (m.octets.map Text.Numeral.hexByte)

/-- The text of an address. -/
def toText (m : Mac) : String := String.ofList m.toChars

/-- The octet of one group: one or two hexadecimal digits. -/
def octet? (group : List Char) : Option UInt8 :=
  if 2 < group.length then none else (Text.Numeral.read? 16 group).map UInt8.ofNat

/-- Reads the text of an address. -/
def read? (text : List Char) : Option Mac :=
  match (Text.splitOn ':' text).mapM octet? with
  | some octets => if h : octets.length = 6 then some ⟨octets, h⟩ else none
  | none => none

/-- Reads the text of an address; an error carries the text. -/
def parse (text : String) : Except AddressError Mac :=
  match read? text.toList with
  | some m => .ok m
  | none => .error (.invalidMac text)

end Mac

end Rtnetlink
