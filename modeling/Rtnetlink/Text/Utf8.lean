/-!
# Text as bytes

Names and other text go into messages as their UTF-8 encoding.
-/

namespace Rtnetlink.Text

/-- The UTF-8 encoding of a text. -/
def utf8 (text : String) : List UInt8 := text.toUTF8.data.toList

/-- The text that bytes encode in UTF-8, if they do. -/
def ofUtf8? (bytes : List UInt8) : Option String := String.fromUTF8? ⟨bytes.toArray⟩

end Rtnetlink.Text
