import Rtnetlink.Bytes
import Rtnetlink.Run
import Rtnetlink.Size

/-!
# The arena: storage that messages are staged in

An arena is a byte string together with the length of its committed part.  Space is reserved behind
the committed part, written, and then committed.  Starting over commits nothing and keeps all bytes,
so what is reserved may hold old bytes; only bytes that the storage gains by growing are known to be
zero.

Storage grows to twice what is needed.  Sizes are words, so what is needed, and twice as much, may
start over at zero; storage is then resized to what came out, which may even be less than it was.
An operation halts if it would touch bytes outside the storage or ask for more than any storage can
hold.
-/

namespace Rtnetlink

/-- Storage with a committed part at its start. -/
structure Arena where
  /-- All bytes, committed or not. -/
  storage : List UInt8 := []
  /-- How many bytes at the start are committed. -/
  committed : Nat := 0
deriving DecidableEq, Repr

namespace Arena

variable {ε : Type}

/-- An empty arena with storage of a given size; there is none if no storage can be so large. -/
def ofCapacity? (capacity : Nat) : Option Arena :=
  if Size.greatest < capacity then none else some { storage := List.replicate capacity 0 }

/-- The size of the storage. -/
def capacity (a : Arena) : Nat := a.storage.length

/-- The committed bytes. -/
def data (a : Arena) : List UInt8 := a.storage.take a.committed

/-- The bytes behind the committed part. -/
def tail (a : Arena) : List UInt8 := a.storage.drop a.committed

/-- Bytes cut off or filled up with zeros to a given length. -/
def resized (bytes : List UInt8) (length : Nat) : List UInt8 :=
  bytes.take length ++ List.replicate (length - bytes.length) 0

/-- Makes sure that `amount` more bytes fit behind the committed part.  Storage that is too small is
resized to twice what is needed. -/
def reserve (amount : Nat) : Run ε Arena Unit := fun a =>
  let required := Size.wrap (a.committed + amount)
  let doubled := Size.wrap (required * 2)
  if required ≤ a.capacity then
    .ok () a
  else if Size.greatest < doubled then
    .halted .tooLarge a
  else
    .ok () { a with storage := resized a.storage doubled }

/-- Commits `amount` more bytes, which have to be there. -/
def commit (amount : Nat) : Run ε Arena Unit := fun a =>
  let committed := Size.wrap (a.committed + amount)
  if committed ≤ a.capacity then .ok () { a with committed } else .halted .outOfRange a

/-- Gives up the committed part and reserves `amount` bytes; no byte is cleared. -/
def reset (amount : Nat) : Run ε Arena Unit := do
  Run.modify fun a => { a with committed := 0 }
  reserve amount

/-- Halts unless there are `amount` bytes behind the committed part. -/
def checkRoom (amount : Nat) : Run ε Arena Unit := fun a =>
  if a.committed + amount ≤ a.capacity then .ok () a else .halted .outOfRange a

/-- Writes bytes to the start of the tail without committing them; they have to fit. -/
def write (bytes : List UInt8) : Run ε Arena Unit := do
  checkRoom bytes.length
  Run.modify fun a => { a with storage := overlay a.storage a.committed bytes }

/-- Writes bytes over committed ones from `offset` on. -/
def patch (offset : Nat) (bytes : List UInt8) : Run ε Arena Unit := fun a =>
  if a.committed ≤ a.capacity ∧ offset + bytes.length ≤ a.committed then
    .ok () { a with storage := overlay a.storage offset bytes }
  else
    .halted .outOfRange a

/-- Reads the committed bytes, which have to be in the storage. -/
def read : Run ε Arena (List UInt8) := fun a =>
  if a.committed ≤ a.capacity then .ok a.data a else .halted .outOfRange a

/-- Appends bytes. -/
def extend (bytes : List UInt8) : Run ε Arena Unit := do
  reserve bytes.length
  write bytes
  commit bytes.length

/-- Appends a row of cells: their bytes are written, and their gaps keep what the storage holds. -/
def lay (cells : List Cell) : Run ε Arena Unit := do
  reserve cells.length
  let a ← Run.state
  write (settle cells a.tail)
  commit cells.length

/-- Appends zero bytes, written over whatever the storage holds. -/
def extendZero (amount : Nat) : Run ε Arena Unit := do
  reserve amount
  checkRoom amount
  write (List.replicate amount 0)
  commit amount

/-- Writes bytes to the start of the storage, as far as they fit; nothing is committed. -/
def fill (a : Arena) (bytes : List UInt8) : Arena :=
  { a with storage := overlay a.storage 0 (bytes.take a.capacity) }

end Arena

end Rtnetlink
