import Datastream.Channel.Basic
import Datastream.Channel.ReceiveBuffer
import Datastream.Compression.Zlib
import Datastream.Negotiation.Exchange
import Datastream.Session.Run
import Datastream.Text.Quoted

/-!
# Clients

A client after the negotiation: the layers of its stream, the channel with the two stages of a
connection, the handshake and the session, and the heartbeats that it sends from the start of the
session on.

Models `from_stream` after the negotiation (`Run.stages`, `start`) and `start_heartbeat`
(`startBeating`, `beat`), besides `close` and `drop`.
-/
namespace Datastream

open Compression

def Run.stages : List (Stage Run) :=
  [{ name := Handshake.name
     read := fun payload => Run.perform (Session.readHandshake payload)
     close := fun r => { r with
       session := { r.session with handshake := r.session.handshake.close } } },
   { name := Session.name
     read := fun payload => do
       Run.perform (Session.read payload)
       return false
     close := fun r => { r with session := r.session.close } }]

structure Client where
  config : Config
  /-- What the negotiation led to. -/
  agreement : CoreHeader
  stack : LayerStack
  channel : Channel Run
  memory : ReceiveBuffer := {}
  /-- The incoming bytes under the compression. -/
  inflow : DeflateReader Inflater := ⟨{}, [], false⟩
  outflow : DeflateWriter Deflater := { state := {} }
  /-- When the next heartbeat is due. -/
  nextBeat : Option Nat := none

namespace Client

def start (config : Config) (agreement : CoreHeader) (stack : LayerStack) (clock : Reading)
    (now : Nat) : Client where
  config := config
  agreement := agreement
  stack := stack
  channel := Channel.start ⟨config.transport.maxFrameSize⟩ Run.stages
    { session := Session.fresh clock, now, limit := config.client.handshakeTimeout }

def run (c : Client) : Run := c.channel.state

def session (c : Client) : Session := c.run.session

def withRun (c : Client) (run : Run) : Client :=
  { c with channel := { c.channel with state := run } }

/-- Reads from a compressed stream until it has no more to give. Every read but the last yields a
byte at least, which bounds their number. -/
def pump : (fuel : Nat) → Client → Source → Client
  | 0, c, _ => c
  | fuel + 1, c, source =>
    if c.channel.isOver then c
    else
      let memory := c.memory.prepare c.channel.buffer
      match c.inflow.poll Inflater.decompressor memory.room source with
      | (.pending, inflow, _) => { c with inflow, memory }
      | (.failed _, inflow, _) | (.ready [], inflow, _) =>
        { c with inflow, memory, channel := c.channel.finish }
      | (.ready output, inflow, source) =>
        let channel := c.channel.receive output
        let memory := memory.append output.length
        pump fuel
          { c with inflow, channel, memory := memory.cut (memory.size - channel.buffer.length) }
          source

/-- Takes what came in on the stream, and whether it has ended. -/
def receive (c : Client) (bytes : Bytes) (ended : Bool) : Client :=
  if c.stack.isCompressed then
    c.pump (Inflater.maxReads c.inflow bytes.length)
      { chunks := if bytes.isEmpty then [] else [bytes], ended }
  else
    let channel := c.channel.receive bytes
    { c with channel := if ended then channel.finish else channel }

/-- Sends so many heartbeats; says whether all could be sent. -/
def sendBeats : (count : Nat) → Session → Bool × Session
  | 0, s => (true, s)
  | count + 1, s =>
    match Session.sendHeartbeat s with
    | .ok _ s => sendBeats count s
    | .error _ s => (false, s)

/-- Sends the heartbeats that are due. One that cannot be sent is the last. -/
def beat (c : Client) : Client :=
  match c.nextBeat with
  | none => c
  | some due =>
    if c.run.now < due then c
    else
      let interval := c.config.client.heartbeatInterval
      let count := (c.run.now - due) / interval + 1
      let (all, session) := sendBeats count c.session
      { c.withRun { c.run with session } with
        nextBeat := if all then some (due + count * interval) else none }

def advance (c : Client) (millis : Nat) : Client := (c.withRun (c.run.advance millis)).beat

def startBeating (c : Client) : Client :=
  let interval := c.config.client.heartbeatInterval
  { c with nextBeat := if interval = 0 then none else some (c.run.now + interval) }

/-- Gives every call a turn. With the start of the session the heartbeats start. -/
def turn (c : Client) : List (String × Except Error Answer) × Client :=
  let (results, run) := c.run.settle
  let c := c.withRun run
  let started := results.any fun
    | (_, .ok (.sessionState _)) => true
    | _ => false
  (results, if started then c.startBeating else c)

/-- Writes the payloads that wait, through the layers of the stream. -/
def flush (c : Client) (connected : Bool) : Bytes × Client :=
  let (frames, channel) := c.channel.flush connected
  let c := { c with channel }
  if c.stack.isCompressed then
    let outflow := frames.foldl (fun w frame => (w.writeAll Deflater.compressor frame).sync
      Deflater.compressor) c.outflow
    let (wire, outflow) := outflow.drain outflow.pending.length
    (wire, { c with outflow })
  else (frames.flatten, c)

def close (c : Client) : Client := { c with nextBeat := none, channel := c.channel.close }

/-- Gives the client up, with the calls that wait. -/
def drop (c : Client) : Client :=
  { c.withRun { c.run with calls := [] } with nextBeat := none, channel := c.channel.abort }

def describe (c : Client) : String :=
  let number (n : Nat) : String := toString n
  "QuasselClient \x7b address: " ++ Quoted.quote c.config.client.address ++
    ", negotiated: Negotiated \x7b features: ProtocolFeatures(" ++ number c.agreement.features.toNat ++
    "), meta: ProtocolMeta \x7b version: " ++
    (if c.agreement.protocol.version = .datastream then "Datastream" else "Legacy") ++
    ", data: " ++ number c.agreement.protocol.data.toNat ++
    " \x7d \x7d, closed: " ++ toString c.channel.isClosed ++ " \x7d"

end Client
end Datastream
