import Datastream.Compression.Stream

/-!
# Writing a compressed stream

The compressor is called until it has done what it is asked for, as each call has only so much room to
put out into. What it puts out is pending until the stream below has taken it; that may take less than
it is offered, or not be ready at all. Then an attempt to write or to flush leaves off, and a later one
goes on from there.

Models `poll_drain`, `poll_write`, `poll_flush` and `poll_shutdown`; `sync` is the loop of
`sync_flush`.
-/
namespace Datastream.Compression

/-- What one call of a compressor does with an input. -/
structure Outflow (σ : Type) (input : Bytes) where
  state : σ
  /-- How many bytes of the input it takes in. -/
  consumed : Nat
  output : Bytes
  /-- Whether there is room left after the output. -/
  spare : Bool
  consumed_le : consumed ≤ input.length := by omega

/-- A compressor with states `σ`, call by call. A call that takes nothing in, or that leaves no room when
it is to put out everything, leaves the compressor less to put out. -/
structure CalledCompressor (σ : Type) where
  call : σ → (sync : Bool) → (input : Bytes) → Outflow σ input
  /-- A bound on what it has to put out. -/
  held : σ → Nat
  feeds : ∀ s input, input ≠ [] → (call s false input).consumed = 0 →
    held (call s false input).state < held s
  syncs : ∀ s, (call s true []).spare = false → held (call s true []).state < held s

namespace CalledCompressor

variable {σ : Type} (z : CalledCompressor σ)

/-- Calls the compressor until it has taken in everything. -/
def feed (s : σ) (data : Bytes) : σ × Bytes :=
  if _some : data = [] then (s, [])
  else
    let flow := z.call s false data
    let (s, output) := feed flow.state (data.drop flow.consumed)
    (s, flow.output ++ output)
termination_by (data.length, z.held s)
decreasing_by
  have bound := (z.call s false data).consumed_le
  rw [List.length_drop]
  by_cases none : (z.call s false data).consumed = 0
  · rw [none]
    exact .right _ (z.feeds s data _some none)
  · exact .left _ _ (by omega)

/-- Calls the compressor until it leaves room, for it has put out everything then. -/
def sync (s : σ) : σ × Bytes :=
  let flow := z.call s true []
  if _done : flow.spare = true then (flow.state, flow.output)
  else
    let (s, output) := sync flow.state
    (s, flow.output ++ output)
termination_by z.held s
decreasing_by exact z.syncs s (Bool.eq_false_iff.mpr _done)

def toCompressor : Compressor σ := ⟨z.feed, z.sync⟩

end CalledCompressor

/-- The error of a stream that takes nothing of what it is offered. -/
def nothingTaken : Error := .stream .writeZero "write zero"

/-- How an attempt at something ends, if it does not leave off. -/
abbrev Attempt (α : Type) := Option (Except Error α)

namespace DeflateWriter

variable {σ : Type} (c : Compressor σ)

/-- Offers what is pending to the stream below, which answers how much it takes until it is not ready
any more. Tells what it has taken. -/
def pollDrain (w : DeflateWriter σ) (below : List (Except Error Nat)) :
    Attempt Unit × Bytes × DeflateWriter σ :=
  if w.pending.isEmpty then (some (.ok ()), [], w)
  else
    match below with
    | [] => (none, [], w)
    | .error reason :: _ => (some (.error reason), [], w)
    | .ok 0 :: _ => (some (.error nothingTaken), [], w)
    | .ok accepted :: below =>
      let (piece, w) := w.drain accepted
      let (result, taken, w) := pollDrain w below
      (result, piece ++ taken, w)

/-- Tries to write, and tells how many bytes were taken in: all of them, once all that is pending has
been taken. -/
def pollWrite (w : DeflateWriter σ) (data : Bytes) (below : List (Except Error Nat)) :
    Attempt Nat × Bytes × DeflateWriter σ :=
  match w.pollDrain below with
  | (some (.ok ()), taken, w) => (some (.ok data.length), taken, w.write c data)
  | (some (.error reason), taken, w) => (some (.error reason), taken, w)
  | (none, taken, w) => (none, taken, w)

/-- Tries to flush, and at last to have the stream below flush. -/
def pollFlush (w : DeflateWriter σ) (below : List (Except Error Nat)) (flushed : Attempt Unit) :
    Attempt Unit × Bytes × DeflateWriter σ :=
  match (w.sync c).pollDrain below with
  | (some (.ok ()), taken, w) => (flushed, taken, w)
  | unfinished => unfinished

/-- Tries to flush, and then to have the stream below shut down. -/
def pollShutdown (w : DeflateWriter σ) (below : List (Except Error Nat))
    (flushed shut : Attempt Unit) : Attempt Unit × Bytes × DeflateWriter σ :=
  match w.pollFlush c below flushed with
  | (some (.ok ()), taken, w) => (shut, taken, w)
  | unfinished => unfinished

end DeflateWriter
end Datastream.Compression
