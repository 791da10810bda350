import Rtnetlink.Text.Blank
import Rtnetlink.Text.Numeral

/-!
# The packet scheduler's clock

Delays are given to the kernel in ticks of its packet scheduler.  The kernel publishes the length of
a tick as a row of hexadecimal numbers, of which the first divided by the second is the number of
ticks in a microsecond.
-/

namespace Rtnetlink

/-- The clock of the packet scheduler. -/
structure Clock where
  /-- The number of ticks in a microsecond. -/
  ticksPerMicrosecond : Float

namespace Clock

/-- Where the kernel publishes the clock. -/
def path : String := "/proc/net/psched"

/-- A hexadecimal numeral of 32 bits, with or without a plus sign. -/
def word? (digits : List Char) : Option UInt32 :=
  ((Text.Numeral.readSigned? 16 digits).filter (· < UInt32.size)).map UInt32.ofNat

/-- The two numbers that the length of a tick is made from: the first two words of the text, the
second of which is not zero. -/
def ratio? (text : List Char) : Option (UInt32 × UInt32) :=
  match Text.words text with
  | first :: second :: _ => do
    let ticks ← word? first
    let microseconds ← word? second
    if microseconds = 0 then none else some (ticks, microseconds)
  | _ => none

/-- Reads the published clock.  An error carries the text without the white space at its ends. -/
def parse (text : String) : Except String Clock :=
  match ratio? text.toList with
  | some (ticks, microseconds) => .ok ⟨ticks.toFloat / microseconds.toFloat⟩
  | none => .error (String.ofList (Text.trim text.toList))

/-- A number rounded to the nearest whole word, halves away from zero.  Numbers outside the words
go to the nearest word, and what is not a number to zero. -/
def toWord (x : Float) : UInt32 := x.round.toUInt32

/-- A time in milliseconds as ticks. -/
def ticks (c : Clock) (milliseconds : Float) : UInt32 :=
  toWord (milliseconds * 1000.0 * c.ticksPerMicrosecond)

end Clock

end Rtnetlink
