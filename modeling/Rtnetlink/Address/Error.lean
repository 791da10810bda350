import Rtnetlink.Text.Quoted

/-!
# Texts that are not addresses

Each error carries the whole text that was to be read.
-/

namespace Rtnetlink

/-- Why a text is not an address. -/
inductive AddressError where
  /-- A subnet has no slash. -/
  | missingPrefix (text : String)
  /-- What stands before the slash is not an IPv4 address. -/
  | invalidAddress (text : String)
  /-- What stands behind the slash is not a prefix length. -/
  | invalidPrefix (text : String)
  /-- The text is not a MAC address. -/
  | invalidMac (text : String)
deriving DecidableEq, Repr

/-- The text of an address error. -/
def AddressError.message : AddressError → String
  | .missingPrefix text => "invalid CIDR notation (no slash found): " ++ Text.Quoted.encode text
  | .invalidAddress text => "invalid IPv4 address: " ++ Text.Quoted.encode text
  | .invalidPrefix text => "invalid prefix length: " ++ Text.Quoted.encode text
  | .invalidMac text => "invalid MAC address: " ++ Text.Quoted.encode text

end Rtnetlink
