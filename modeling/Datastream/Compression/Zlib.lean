import Datastream.Compression.Inflate
import Datastream.Compression.Stream

/-!
# Zlib streams

The compressor and the decompressor of a connection. The decompressor inflates into a window of
32 KiB and hands on from there, so it may have taken in input whose output is still in the window.
The compressor writes stored blocks, which any decompressor reads.
-/
namespace Datastream.Compression

structure Inflater where
  /-- The input that was taken in. -/
  taken : Array UInt8 := #[]
  /-- How much of the output was handed on or is in the window. -/
  inflated : Nat := 0
  /-- The output that is in the window and was not handed on. -/
  held : Bytes := []
  /-- Whether all of the stream was inflated. -/
  complete : Bool := false

namespace Inflater

/-- The size of the window. -/
def windowSize : Nat := 32768

/-- What a corrupt stream is called. -/
def failure : String := "deflate decompression error"

/-- Hands on what is held, as far as there is room. -/
def give (s : Inflater) (room : Nat) : Bytes × Inflater :=
  (s.held.take room, { s with held := s.held.drop room })

/-- Inflates up to the end of the window. Says how much of the input was taken in. -/
def fill (s : Inflater) (input : Bytes) : Option (Nat × Inflater) :=
  let stream := s.taken ++ input
  let limit := (s.inflated / windowSize + 1) * windowSize
  let extent := inflate stream limit
  match extent.ending with
  | .stopped .corrupt => none
  | ending =>
    let consumed := match ending with
      | .stopped _ => input.length
      | _ => min input.length ((extent.place + 7) / 8 - s.taken.size)
    some (consumed, { s with
      taken := s.taken ++ input.take consumed
      inflated := extent.out.size
      held := (extent.out.extract s.inflated extent.out.size).toList
      complete := ending = .complete })

/-- Fills the window and hands on from it, again and again, while there is room and input. -/
def run (s : Inflater) (input : Bytes) (room : Nat) : (fuel : Nat) →
    (consumed : Nat) → (output : Bytes) → Option (Nat × Bytes × Inflater)
  | 0, consumed, output => some (consumed, output, s)
  | fuel + 1, consumed, output =>
    match s.fill (input.drop consumed) with
    | none => none
    | some (more, s) =>
      let (given, s) := s.give (room - output.length)
      let consumed := consumed + more
      let output := output ++ given
      if s.complete || input.length ≤ consumed || room ≤ output.length || !s.held.isEmpty then
        some (consumed, output, s)
      else run s input room fuel consumed output

/-- One call. Output that is held goes first, and input is left alone then. -/
def call (s : Inflater) (input : Bytes) (room : Nat) :
    Except String (Nat × Bytes × Bool × Inflater) :=
  if s.complete || !s.held.isEmpty then
    let (output, s) := s.give room
    .ok (0, output, s.complete && s.held.isEmpty, s)
  else
    match s.run input room (room + 1) 0 [] with
    | none => .error failure
    | some (consumed, output, s) => .ok (consumed, output, s.complete && s.held.isEmpty, s)

def decompressor : Decompressor Inflater where
  call s input room :=
    match s.call input room with
    | .error reason => .error reason
    | .ok (consumed, output, ended, state) =>
      .ok { state, ended, consumed := min consumed input.length, output := output.take room
            consumed_le := Nat.min_le_right ..
            output_le := List.length_take_le .. }

/-- The most bytes that a compressed byte stands for. -/
def maxExpansion : Nat := 1032

/-- How often a reader can have something to give, with so many bytes still to come. -/
def maxReads (reader : DeflateReader Inflater) (more : Nat) : Nat :=
  maxExpansion * (reader.state.taken.size + reader.buffer.length + more + 1) + 1

/-- Reads what a stream comes to when these bytes arrive. -/
def readAll (room : Nat) (reader : DeflateReader Inflater) (bytes : Bytes) (ended : Bool) :
    DeflateReader.Drained Inflater :=
  reader.readAll decompressor room (maxReads reader bytes.length)
    { chunks := if bytes.isEmpty then [] else [bytes], ended }

end Inflater

structure Deflater where
  /-- Whether the header of the stream was written. -/
  started : Bool := false
  /-- What was taken in since the last synchronization. -/
  collected : Bytes := []

namespace Deflater

def header : Bytes := [0x78, 0x01]

/-- Low byte first. -/
def word (n : Nat) : Bytes := [UInt8.ofNat n, UInt8.ofNat (n / 256)]

/-- A block that is not compressed and not the last one. -/
def storedBlock (data : Bytes) : Bytes :=
  0x00 :: word data.length ++ word (65535 - data.length) ++ data

/-- The most that a stored block holds. -/
def maxStored : Nat := 65535

/-- Stored blocks for all bytes. -/
def storedBlocks (data : Bytes) : Bytes :=
  if data.isEmpty then []
  else storedBlock (data.take maxStored) ++ storedBlocks (data.drop maxStored)
termination_by data.length
decreasing_by
  have : data ≠ [] := by simp_all
  have := List.length_pos_iff.2 this
  simp [maxStored]
  omega

/-- The compressor of a connection. A synchronization ends with an empty block. -/
def compressor : Compressor Deflater where
  feed s data := ({ s with collected := s.collected ++ data }, [])
  sync s :=
    ({ started := true },
      (if s.started then [] else header) ++ storedBlocks s.collected ++ storedBlock [])

end Deflater
end Datastream.Compression
