import Datastream.Certificate.Trust
import Datastream.Client.Basic

/-!
# Connections

A client from the first byte on a fresh stream: the negotiation, and the client that comes of it. The
other end of the stream may be gone at any time, and time passes when it is said to.

Models `from_stream` as a whole, with the host that `host_of` gives.
-/
namespace Datastream

inductive Phase
  | negotiating (offer : Offer) (received : Bytes)
  | running (client : Client)
  | failed

structure Connection where
  config : Config
  /-- What the wall clock reads, in UTC. -/
  clock : Reading
  now : Nat := 0
  /-- Whether the other end is still there. -/
  connected : Bool := true
  phase : Phase

structure ConnectionTurn where
  /-- How the negotiation ended, if it did. -/
  outcome : Option (Except Error Unit) := none
  /-- What came of the calls that are over. -/
  results : List (String × Except Error Answer) := []
  /-- What is written to the stream. -/
  wire : Bytes := []

namespace Connection

def tlsClient (config : Config) : Except Error TlsClient :=
  TlsClient.ofConfig config.tls (ClientConfig.hostOf config.client.address)

/-- What a configuration offers. The trust settings have to make sense if TLS is offered. -/
def offer (config : Config) : Except Error Offer :=
  if config.transport.offerTls then
    (tlsClient config).map fun _ => Offer.ofTransport config.transport true
  else .ok (Offer.ofTransport config.transport false)

/-- Why a TLS handshake fails before it begins, if it is known to. -/
def tlsFault? (config : Config) : Option Error :=
  match tlsClient config with
  | .ok client => client.fault?
  | .error fault => some fault

/-- Starts a connection, with the bytes of the header as the first to be written. -/
def start (config : Config) (clock : Reading) : ConnectionTurn × Connection :=
  match offer config with
  | .error error => ({ outcome := some (.error error) }, { config, clock, phase := .failed })
  | .ok offer => ({ wire := offer.header.encode }, { config, clock, phase := .negotiating offer [] })

def client? (c : Connection) : Option Client :=
  match c.phase with
  | .running client => some client
  | _ => none

def mapClient (f : Client → Client) (c : Connection) : Connection :=
  match c.phase with
  | .running client => { c with phase := .running (f client) }
  | _ => c

def receive (c : Connection) (bytes : Bytes) : Connection :=
  match c.phase with
  | .negotiating offer received => { c with phase := .negotiating offer (received ++ bytes) }
  | .running client => { c with phase := .running (client.receive bytes false) }
  | .failed => c

def disconnect (c : Connection) : Connection :=
  { c.mapClient (·.receive [] true) with connected := false }

def advance (c : Connection) (millis : Nat) : Connection :=
  { c.mapClient (·.advance millis) with now := c.now + millis }

def negotiate (c : Connection) : Option (Except Error Unit) × Connection :=
  match c.phase with
  | .negotiating offer received =>
    let late := c.config.client.handshakeTimeout ≤ c.now
    let progress := offer.progress received (!c.connected) late
    let progress := match tlsFault? c.config with
      | some fault => progress.secured (.error fault)
      | none => progress
    match progress.outcome? with
    | none => (none, c)
    | some (.error reason) => (some (.error reason), { c with phase := .failed })
    | some (.ok a) =>
      let client := Client.start c.config a.reply a.stack c.clock c.now
      (some (.ok ()), { c with phase := .running (client.receive a.rest (!c.connected)) })
  | _ => (none, c)

def turn (c : Connection) : ConnectionTurn × Connection :=
  let (outcome, c) := c.negotiate
  match c.phase with
  | .running client =>
    let (results, client) := client.turn
    let (wire, client) := client.flush c.connected
    ({ outcome, results, wire }, { c with phase := .running client })
  | _ => ({ outcome }, c)

def drop (c : Connection) : Connection :=
  match c.phase with
  | .running client => { c with phase := .running client.drop }
  | _ => { c with phase := .failed }

/-- Whether the stream is still in use at this end. -/
def holdsStream (c : Connection) : Bool :=
  match c.phase with
  | .negotiating .. => true
  | .running client => client.channel.holdsStream
  | .failed => false

end Connection
end Datastream
