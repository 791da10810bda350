import Rtnetlink.Text.Glyph
import Rtnetlink.Text.Numeral

/-!
# Quoted text

Error messages show names and other foreign text between double quotes.  A quote and a backslash
are escaped, the usual controls have short forms, and every other character that could not be seen
is written by its code point.
-/

namespace Rtnetlink.Text.Quoted

/-- A code point between braces, in hexadecimal, behind a backslash. -/
def codePoint (c : Char) : List Char :=
  ['\\', 'u', Char.ofNat 0x7B] ++ Numeral.hexDigits c.toNat ++ [Char.ofNat 0x7D]

/-- How one character is written. -/
def encodeChar (c : Char) : List Char :=
  if c = Char.ofNat 0 then ['\\', '0']
  else if c = '\t' then ['\\', 't']
  else if c = '\n' then ['\\', 'n']
  else if c = '\r' then ['\\', 'r']
  else if c = '"' ∨ c = '\\' then ['\\', c]
  else if isCombining c || isInvisible c then codePoint c
  else [c]

/-- The quoted form of a text. -/
def encode (text : String) : String :=
  String.ofList ('"' :: text.toList.flatMap encodeChar ++ ['"'])

end Rtnetlink.Text.Quoted
