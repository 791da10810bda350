import Rtnetlink.Arena
import Rtnetlink.Run
import Rtnetlink.Wire.Attribute
import Rtnetlink.Wire.Family
import Rtnetlink.Wire.Header
import Rtnetlink.Wire.Netem

/-!
# Drafts: messages under construction

A draft is a message being staged in an arena.  It starts with a header and grows at its end.  An
attribute is opened by appending a header without a length and closed by writing the length back
into it, so the draft remembers where its open attributes start.  Closing pads the draft to four
bytes, counted from the start of the message.

Appending is never refused.  Opening is refused at the greatest depth and closing is refused where
nothing is open or the attribute is too long for its length field; a refused opening or closing
leaves the draft as it was.
-/

namespace Rtnetlink

open LittleEndian

/-- A broken contract of the one who composes or sends a message. -/
inductive Misuse where
  /-- An attribute was opened although the greatest number was open. -/
  | tooDeep (max : Nat)
  /-- An attribute was closed although none was open. -/
  | noneOpen
  /-- A message was sent while attributes were open. -/
  | stillOpen (depth : Nat)
  /-- An attribute was closed that is too long for its length field. -/
  | tooLong (length : Nat)
deriving DecidableEq, Repr

/-- The text of a misuse. -/
def Misuse.message : Misuse → String
  | .tooDeep max => "attribute nesting exceeded the maximum depth of " ++ toString max
  | .noneOpen => "attribute closed while none was open"
  | .stillOpen depth => "message sent with " ++ toString depth ++ " attribute(s) still open"
  | .tooLong length =>
    "attribute of " ++ toString length ++ " bytes does not fit its 16-bit length field"

/-- A message under construction. -/
structure Draft where
  /-- Where the message is staged; its committed part is the message so far. -/
  arena : Arena := {}
  /-- Where the open attributes start, the innermost first. -/
  marks : List Nat := []
deriving DecidableEq, Repr

namespace Draft

/-- How many attributes may be open at once. -/
def maxDepth : Nat := 10

/-- The greatest length of an attribute. -/
def maxAttributeLength : Nat := 65535

/-- How many attributes are open. -/
def depth (d : Draft) : Nat := d.marks.length

/-- The message so far.  Its header's length field is only filled in for sending. -/
def bytes (d : Draft) : List UInt8 := d.arena.data

/-- The length of the message so far. -/
def length (d : Draft) : Nat := d.arena.committed

/-- Whether the message holds nothing but its header. -/
def isEmpty (d : Draft) : Bool := d.length == Header.size

/-- Does something to the arena. -/
def onArena {ε : Type} (run : Run ε Arena Unit) : Run ε Draft Unit :=
  Run.within (·.arena) (fun arena d => { d with arena }) run

/-- Starts a message with a header, giving up whatever was staged.  At least `room` bytes are
reserved for it. -/
def start {ε : Type} (header : Header) (room : Nat) : Run ε Draft Unit := do
  onArena (Arena.reset (max room Header.size))
  Run.modify fun d => { d with marks := [] }
  onArena (Arena.write header.encode)
  onArena (Arena.commit Header.size)

/-- The sequence number in the draft's header. -/
def sequence {ε : Type} : Run ε Draft UInt32 :=
  Run.read? fun d => if d.bytes.length < 12 then none else some (toU32 (d.bytes.drop 8))

/-- Appends raw bytes. -/
def append {ε : Type} (bytes : List UInt8) : Run ε Draft Unit := onArena (Arena.extend bytes)

/-- Appends a fixed layout. -/
def appendCells {ε : Type} (cells : List Cell) : Run ε Draft Unit := onArena (Arena.lay cells)

/-- Opens an attribute.  What is appended until it is closed is its value. -/
def openAttribute (kind : UInt16) : Run Misuse Draft Unit := do
  let d ← Run.state
  if maxDepth ≤ d.depth then
    Run.refuse (.tooDeep maxDepth)
  else do
    append (AttributeHeader.encode { length := 0, kind })
    Run.modify fun d' => { d' with marks := d.length :: d.marks }

/-- How many bytes the message has from a mark to its end; the run halts if the mark lies past the
end. -/
def lengthFrom {ε : Type} (mark : Nat) : Run ε Draft Nat :=
  Run.read? fun d => if mark ≤ d.length then some (d.length - mark) else none

/-- Closes the attribute opened last: writes its length and pads the message to four bytes. -/
def closeAttribute : Run Misuse Draft Unit := do
  let d ← Run.state
  match d.marks with
  | [] => Run.refuse .noneOpen
  | mark :: outer => do
    let length ← lengthFrom mark
    if maxAttributeLength < length then
      Run.refuse (.tooLong length)
    else do
      -- from here on nothing can be refused
      Run.modify fun d => { d with marks := outer }
      onArena (Arena.patch mark (ofU16 (UInt16.ofNat length)))
      onArena (Arena.extendZero (align d.length - d.length))

/-- Appends an attribute with the given value.  If it cannot be closed it stays open. -/
def addAttribute (kind : UInt16) (value : List UInt8) : Run Misuse Draft Unit := do
  openAttribute kind
  append value
  closeAttribute

/-- Appends an attribute whose value is a fixed layout.  If it cannot be closed it stays open. -/
def addAttributeCells (kind : UInt16) (cells : List Cell) : Run Misuse Draft Unit := do
  openAttribute kind
  appendCells cells
  closeAttribute

/-- Closes attributes until fewer than `level` are open, or until one cannot be closed.  The count
bounds how many are tried. -/
def closeDown (level : Nat) : (count : Nat) → Run Misuse Draft Unit
  | 0 => pure ()
  | count + 1 => do
    let d ← Run.state
    if d.depth < level then
      pure ()
    else do
      match ← Run.attempt closeAttribute with
      | .ok () => closeDown level count
      | .error _ => pure ()

/-- Closes the attribute at a level and all that were opened inside it. -/
def closeFrom (level : Nat) : Run Misuse Draft Unit := do
  let d ← Run.state
  closeDown level d.depth

/-- Opens an attribute, runs `body` inside it, and closes it with all that `body` left open,
whether `body` is refused or not. -/
def nest {α : Type} (kind : UInt16) (body : Run Misuse Draft α) : Run Misuse Draft α := do
  openAttribute kind
  let d ← Run.state
  let result ← Run.attempt body
  closeFrom d.depth
  match result with
  | .ok value => pure value
  | .error cause => Run.refuse cause

/-- Fills in the length field of the message's header. -/
def stampLength {ε : Type} : Run ε Draft Unit := do
  let d ← Run.state
  onArena (Arena.patch 0 (ofU32 (UInt32.ofNat d.length)))

end Draft

end Rtnetlink
