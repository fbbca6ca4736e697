import Datastream.Frame

/-!
# Receive buffers

The memory into which incoming bytes are read: one block, in which the bytes that wait stand
somewhere. How much is read at once is how much room there is behind them. Frames are cut off in
front and lie in the same block until they were processed.
-/
namespace Datastream

/-- The measures of a receive buffer, in bytes. -/
structure ReceiveBuffer where
  /-- The size of the block. -/
  block : Nat := 8192
  /-- What stands in front of the bytes that wait. -/
  offset : Nat := 0
  /-- The bytes that wait. -/
  size : Nat := 0
  /-- The bytes that wait and the room behind them. -/
  capacity : Nat := 8192
  /-- Whether frames were cut off this block. -/
  shared : Bool := false
  deriving DecidableEq, Repr

namespace ReceiveBuffer

def room (b : ReceiveBuffer) : Nat := b.capacity - b.size

/-- Makes room for so many more bytes. The room behind is enlarged if the block is long enough; else
the bytes are moved to the front, if that is cheap and enough; else a larger block is taken. -/
def reserve (b : ReceiveBuffer) (more : Nat) : ReceiveBuffer :=
  let needed := b.size + more
  if needed ≤ b.capacity then b
  else if !b.shared then
    let block := max (max (2 * b.block) needed) 8
    { b with block, capacity := block }
  else if needed + b.offset ≤ b.block then { b with capacity := needed }
  else if needed ≤ b.block && b.size ≤ b.offset then { b with offset := 0, capacity := b.block }
  else
    let block := max (2 * b.block) (needed + b.offset)
    { b with block, capacity := block - b.offset }

def append (b : ReceiveBuffer) (count : Nat) : ReceiveBuffer := { b with size := b.size + count }

/-- Cuts frames off, of so many bytes together. -/
def cut (b : ReceiveBuffer) (count : Nat) : ReceiveBuffer :=
  if count = 0 then b
  else { b with
    offset := b.offset + count
    size := b.size - count
    capacity := b.capacity - count
    shared := true }

/-- Makes room for the rest of the frame that the waiting bytes begin, if its length is known, and
for one byte at least. -/
def prepare (b : ReceiveBuffer) (waiting : Bytes) : ReceiveBuffer :=
  let b := match waiting.cut 4 with
    | some (length, _) => b.reserve (4 + length.toNat - b.size)
    | none => b
  b.reserve 1

end ReceiveBuffer
end Datastream
