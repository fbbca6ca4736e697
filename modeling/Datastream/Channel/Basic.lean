import Datastream.Channel.Stage
import Datastream.Frame

/-!
# Channels

A connection once frames are exchanged. One side of it reads: it cuts frames off the incoming bytes
and hands them to the stages. The other side writes the payloads that wait at the link. Reading ends
with the stream, with an error that does not concern a single message only, or with the last stage;
then every stage is told. Writing ends when a payload cannot be written. The stream is given up when
both have ended.

`start`, `take`, `receive` and `finish` are `read_loop`, cut where it waits for bytes; `encodeAll` and
`flush` are `write_loop`. `isClosed` and `isOver` model `is_closed` and `closed`.
-/
namespace Datastream

/-- Whether incoming frames are read. -/
inductive Intake
  | running
  /-- Over; the stages know. -/
  | ended
  /-- Broken off by the program. -/
  | aborted
  deriving DecidableEq, Repr

/-- A connection on which frames are exchanged. -/
structure Channel (σ : Type) where
  codec : FrameCodec
  /-- All stages. -/
  stages : List (Stage σ)
  /-- The stages from the current one on. -/
  chain : List (Stage σ) := []
  /-- Incoming bytes of which no frame was cut yet. -/
  buffer : Bytes := []
  intake : Intake := .running
  state : σ

namespace Channel

variable {σ : Type}

/-- Tells every stage that the connection is gone. -/
def closeStages (c : Channel σ) : Channel σ :=
  { c with state := c.stages.foldl (fun s stage => stage.close s) c.state }

def endReading (c : Channel σ) : Channel σ :=
  { c.closeStages with chain := [], buffer := [], intake := .ended }

/-- Makes the first of some stages the current one; without any, reading is over. -/
def enter (c : Channel σ) : List (Stage σ) → Channel σ
  | [] => c.endReading
  | stage :: rest =>
    match stage.init c.state with
    | .ok _ state => { c with chain := stage :: rest, state }
    | .error _ state => { c with state }.endReading

def start (codec : FrameCodec) (stages : List (Stage σ)) (state : σ) : Channel σ :=
  enter { codec, stages, state } stages

/-- Whether reading has ended by itself. -/
def isClosed (c : Channel σ) : Bool := c.intake = .ended

/-- Whether a wait for the end of the channel is over. -/
def isOver (c : Channel σ) : Bool := c.intake ≠ .running

variable [Linked σ]

/-- Hands a frame to the current stage. What concerns only the one message is counted and
forgotten. -/
def take (c : Channel σ) (payload : Bytes) : Channel σ :=
  match c.chain with
  | [] => c
  | stage :: rest =>
    let state := Linked.count (·.frameReceived (UInt64.ofNat payload.length)) c.state
    match stage.read payload state with
    | .ok false state => { c with state }
    | .ok true state => { c with state := stage.done state }.enter rest
    | .error error state =>
      if error.isRouting then { c with state := Linked.count Metrics.routingError state }
      else { c with state }.endReading

def receive (c : Channel σ) (bytes : Bytes) : Channel σ :=
  if c.isOver then c
  else
    let frames := c.codec.cutAll (c.buffer ++ bytes)
    let c := frames.payloads.foldl take c
    if c.isOver then c
    else if frames.failure.isSome then c.endReading
    else { c with buffer := frames.rest }

/-- Takes the end of the stream, or its failure. All whole frames were taken before. -/
def finish (c : Channel σ) : Channel σ := if c.isOver then c else c.endReading

/-- Whether the link is served: payloads that are sent get written. -/
def isWriting (c : Channel σ) : Bool := !(Linked.link c.state).closed

/-- Ends writing, and drops the payloads that wait. -/
def endWriting (c : Channel σ) : Channel σ :=
  { c with state := Linked.withLink { Linked.link c.state with closed := true, outbox := [] } c.state }

/-- The frames of payloads up to the first that cannot be written, and whether all could. -/
def encodeAll (codec : FrameCodec) : List Bytes → List Bytes × Bool
  | [] => ([], true)
  | payload :: rest =>
    match codec.encode payload with
    | .error _ => ([], false)
    | .ok frame =>
      let (frames, all) := encodeAll codec rest
      (frame :: frames, all)

/-- Writes the payloads that wait, as one frame each, unless the other end is gone. -/
def flush (c : Channel σ) (connected : Bool) : List Bytes × Channel σ :=
  let link := Linked.link c.state
  if link.closed then ([], c)
  else if !connected then ([], if link.outbox.isEmpty then c else c.endWriting)
  else
    let (frames, all) := encodeAll c.codec link.outbox
    (frames, if all then { c with state := Linked.withLink { link with outbox := [] } c.state }
      else c.endWriting)

def abort (c : Channel σ) : Channel σ :=
  { c.endWriting with
    intake := if c.intake = .running then .aborted else c.intake
    chain := []
    buffer := [] }

/-- Breaks the connection off and tells every stage, once more if reading was over. -/
def close (c : Channel σ) : Channel σ := c.closeStages.abort

/-- Whether the stream is still in use. -/
def holdsStream (c : Channel σ) : Bool := !c.isOver || c.isWriting

end Channel
end Datastream
