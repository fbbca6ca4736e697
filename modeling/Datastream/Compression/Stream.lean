import Datastream.Bytes
import Datastream.Error

/-!
# Compressed streams

A stream whose bytes travel compressed, one compressed stream per direction. Nothing is assumed of
the compressor and the decompressor but their types. Every flush ends with a synchronization, which
makes all that was written before it readable at the other end.

Models `poll_read` (`DeflateReader.poll`, in which `refill` asks the stream below) and `sync_flush`
(`DeflateWriter.sync`).
-/
namespace Datastream.Compression

/-- What one call of a decompressor does with an input, when there is room for so many bytes. -/
structure Inflow (σ : Type) (input : Bytes) (room : Nat) where
  state : σ
  /-- How many bytes of the input it takes in. -/
  consumed : Nat
  output : Bytes
  /-- Whether the compressed stream has come to its end. -/
  ended : Bool
  consumed_le : consumed ≤ input.length := by omega
  output_le : output.length ≤ room := by omega

/-- A decompressor with states `σ`. It may take in all of its input and hold output back. -/
structure Decompressor (σ : Type) where
  call : σ → (input : Bytes) → (room : Nat) → Except String (Inflow σ input room)

/-- A compressor with states `σ`. -/
structure Compressor (σ : Type) where
  /-- Takes bytes in, and puts out what it will. -/
  feed : σ → Bytes → σ × Bytes
  /-- Puts out everything, so that what was taken in can be read. -/
  sync : σ → σ × Bytes

/-- How many bytes are taken from the stream below at once. -/
def chunkSize : Nat := 8192

/-- What the stream below has to deliver, chunk by chunk, and whether it ends after that. -/
structure Source where
  chunks : List Bytes := []
  ended : Bool := false

structure DeflateReader (σ : Type) where
  state : σ
  /-- Compressed bytes that were delivered and not taken in. -/
  buffer : Bytes := []
  /-- Whether the stream below has ended. -/
  ended : Bool := false

inductive ReadResult
  /-- These bytes were read; none, if the stream has ended. -/
  | ready (output : Bytes)
  | pending
  | failed (error : Error)

/-- The error of a stream that cannot be decompressed. -/
def decompressionError (reason : String) : Error :=
  .stream .invalidData (Error.decompressionFailed reason).message

namespace DeflateReader

variable {σ : Type} (d : Decompressor σ) (room : Nat)

/-- Takes the next chunk from the stream below, or its end, if it has one to deliver. -/
def refill (r : DeflateReader σ) (source : Source) : Option (DeflateReader σ × Source) :=
  match source.chunks with
  | [] => if source.ended && !r.ended then some ({ r with ended := true }, source) else none
  | chunk :: chunks =>
    if chunk.length ≤ chunkSize then
      some ({ r with buffer := r.buffer ++ chunk }, { source with chunks })
    else
      some ({ r with buffer := r.buffer ++ chunk.take chunkSize },
        { source with chunks := chunk.drop chunkSize :: chunks })

/-- A bound on how often the stream below can still be asked with success. -/
def weight (r : DeflateReader σ) (source : Source) : Nat :=
  source.chunks.foldr (fun chunk total => chunk.length + 1 + total) 0 + if r.ended then 0 else 1

theorem weight_refill {r r' : DeflateReader σ} {source source' : Source}
    (h : r.refill source = some (r', source')) : r'.weight source' < r.weight source := by
  unfold refill at h
  split at h
  · rename_i hc
    split at h
    · rename_i he
      simp only [Bool.and_eq_true, Bool.not_eq_true'] at he
      obtain ⟨rfl, rfl⟩ := Prod.mk.inj (Option.some.inj h)
      simp [weight, hc, he.2]
    · cases h
  · rename_i chunk chunks hc
    split at h
    · obtain ⟨rfl, rfl⟩ := Prod.mk.inj (Option.some.inj h)
      simp only [weight, hc, List.foldr_cons]
      omega
    · rename_i hl
      obtain ⟨rfl, rfl⟩ := Prod.mk.inj (Option.some.inj h)
      simp only [weight, hc, List.foldr_cons, List.length_drop]
      have : 0 < chunkSize := by decide
      omega

/-- Tries to read up to `room` bytes. The stream below is asked if nothing is there to be taken in,
or if nothing came of what is there. -/
def poll (d : Decompressor σ) (room : Nat) (r : DeflateReader σ) (source : Source) :
    ReadResult × DeflateReader σ × Source :=
  if room = 0 then (.ready [], r, source)
  else if r.buffer.isEmpty && !r.ended then
    match _h : r.refill source with
    | none => (.pending, r, source)
    | some (r', source') => poll d room r' source'
  else
    match d.call r.state r.buffer room with
    | .error reason => (.failed (decompressionError reason), r, source)
    | .ok flow =>
      let next := { r with state := flow.state, buffer := r.buffer.drop flow.consumed }
      if !flow.output.isEmpty || r.ended || flow.ended then (.ready flow.output, next, source)
      else if _hc : 0 < flow.consumed then poll d room next source
      else
        match _h : next.refill source with
        | none => (.pending, next, source)
        | some (r', source') => poll d room r' source'
termination_by (r.weight source, r.buffer.length)
decreasing_by
  · exact .left _ _ (weight_refill _h)
  · have := flow.consumed_le
    have hw : next.weight source = r.weight source := rfl
    rw [hw]
    refine .right _ ?_
    simp only [List.length_drop]
    omega
  · have hw := weight_refill _h
    exact .left _ _ hw

/-- What reading on and on comes to: the output, what the reading failed with, if it did, and what
is left. -/
structure Drained (σ : Type) where
  output : Bytes := []
  failure : Option Error := none
  reader : DeflateReader σ
  source : Source

/-- Reads pieces of up to `room` bytes until there are no more. Every piece but the last has a byte
at least, which bounds their number. -/
def readAll (d : Decompressor σ) (room : Nat) :
    (fuel : Nat) → DeflateReader σ → Source → Drained σ
  | 0, reader, source => { reader, source }
  | fuel + 1, reader, source =>
    match reader.poll d room source with
    | (.pending, reader, source) | (.ready [], reader, source) => { reader, source }
    | (.failed error, reader, source) => { reader, source, failure := some error }
    | (.ready output, reader, source) =>
      let rest := readAll d room fuel reader source
      { rest with output := output ++ rest.output }

end DeflateReader

structure DeflateWriter (σ : Type) where
  state : σ
  /-- Compressed bytes that the stream below has not taken. -/
  pending : Bytes := []
  /-- Whether anything was written since the last flush. -/
  dirty : Bool := false
  /-- How many bytes were written. -/
  written : Nat := 0

namespace DeflateWriter

variable {σ : Type} (c : Compressor σ)

/-- Lets the stream below take up to so many bytes. -/
def drain (w : DeflateWriter σ) (accepted : Nat) : Bytes × DeflateWriter σ :=
  (w.pending.take accepted, { w with pending := w.pending.drop accepted })

def write (w : DeflateWriter σ) (data : Bytes) : DeflateWriter σ :=
  let (state, output) := c.feed w.state data
  { state, pending := w.pending ++ output, dirty := true, written := w.written + data.length }

/-- Takes bytes in; without any there is nothing to flush later. -/
def writeAll (w : DeflateWriter σ) (data : Bytes) : DeflateWriter σ :=
  if data.isEmpty then w else w.write c data

/-- Makes everything that was written pending. -/
def sync (w : DeflateWriter σ) : DeflateWriter σ :=
  if w.dirty then
    let (state, output) := c.sync w.state
    { w with state, pending := w.pending ++ output, dirty := false }
  else w

end DeflateWriter
end Datastream.Compression
