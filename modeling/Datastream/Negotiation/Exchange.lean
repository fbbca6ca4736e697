import Datastream.Config.Basic
import Datastream.Negotiation.Header
import Datastream.Transport.LayerStack

/-!
# Negotiation

What happens on a stream before the first frame. The client sends its header and waits for the four
bytes of the core's answer; then it puts on the layers that the answer names. A layer that was not
offered is refused, and so is any other protocol than the datastream protocol.

Models `offered_features` (`offeredLayers`), `negotiate` (`settle`, `Progress`) and `accept`
(`Acceptance.ofStream`).
-/
namespace Datastream

structure Offer where
  layers : Layers
  /-- Whether it is prepared for TLS. -/
  tlsReady : Bool
  deriving DecidableEq, Repr

/-- What becomes of a stream after the answer of the core. -/
inductive Settlement
  /-- The stream has these layers. -/
  | agreed (stack : LayerStack)
  /-- The negotiation has failed. -/
  | refused (reason : Error)
  /-- A TLS handshake is made first; if it succeeds, the rest follows. -/
  | securing (next : Settlement)
  deriving DecidableEq, Repr

namespace Settlement

def ofStack : Except Error LayerStack → Settlement
  | .ok stack => agreed stack
  | .error reason => refused reason

end Settlement

namespace Offer

/-- The layers that settings offer. TLS is offered only by a client that is prepared for it. -/
def offeredLayers (t : TransportConfig) (tlsReady : Bool) : Layers :=
  (if t.offerTls && tlsReady then Layers.tls else .empty).union
    (if t.offerCompression then Layers.compression else .empty)

def ofTransport (t : TransportConfig) (tlsReady : Bool) : Offer :=
  ⟨offeredLayers t tlsReady, tlsReady⟩

def header (o : Offer) : ClientHeader := ⟨o.layers, [⟨.datastream, 0⟩]⟩

/-- Puts compression on a stream if the answer says so. -/
def settleCompression (o : Offer) (reply : CoreHeader) (stack : LayerStack) : Settlement :=
  if reply.features.contains Layers.compression then
    if o.layers.contains Layers.compression then .ofStack stack.addCompression
    else .refused (.layer .compressionNotOffered)
  else .agreed stack

/-- What becomes of the stream after an answer. -/
def settle (o : Offer) (reply : CoreHeader) : Settlement :=
  if reply.protocol.version ≠ .datastream then
    .refused (.unsupportedVersion reply.protocol.version.toByte)
  else if reply.features.contains Layers.tls then
    if o.tlsReady then .securing (o.settleCompression reply .secure)
    else .refused (.layer .tlsNotOffered)
  else o.settleCompression reply .plain

inductive Progress
  | waiting
  | failed (reason : Error)
  /-- The core has answered, and what it sent after the answer is still to be read. -/
  | answered (reply : CoreHeader) (settlement : Settlement) (rest : Bytes)

/-- What a client and a core agreed on. -/
structure Agreement where
  reply : CoreHeader
  stack : LayerStack
  /-- What the core sent after its answer. -/
  rest : Bytes

/-- How a negotiation has ended, if it has. While a TLS handshake is made, nothing else happens. -/
def Progress.outcome? : Progress → Option (Except Error Agreement)
  | .waiting | .answered _ (.securing _) _ => none
  | .failed reason | .answered _ (.refused reason) _ => some (.error reason)
  | .answered reply (.agreed stack) rest => some (.ok ⟨reply, stack, rest⟩)

/-- How far a negotiation is once the TLS handshake that it makes, if it makes one, has ended. -/
def Progress.secured (handshake : Except Error Unit) : Progress → Progress
  | .answered reply (.securing next) rest =>
    match handshake with
    | .ok _ => .answered reply next rest
    | .error reason => .failed reason
  | p => p

/-- How far a negotiation is, by what the core has sent, whether it has gone away since, and whether
the time is up. What is there counts before what is not. -/
def progress (o : Offer) (received : Bytes) (ended expired : Bool) : Progress :=
  match received.cut CoreHeader.size with
  | some (raw, rest) =>
    match CoreHeader.decode raw with
    | .ok reply _ => .answered reply (o.settle reply) rest
    | .error reason _ => .failed reason
  | none => if ended then .failed .connectionClosed else if expired then .failed .timeout else .waiting

end Offer

/-- What a core makes of a client's header. -/
structure Acceptance where
  header : ClientHeader
  reply : CoreHeader
  /-- What the client sent after its header. -/
  rest : Bytes

namespace Acceptance

/-- The entries of a header, up to the marked one. -/
def cutEntries : Bytes → Option (Bytes × Bytes)
  | marker :: a :: b :: c :: rest =>
    if marker &&& 0x80 ≠ 0 then some ([marker, a, b, c], rest)
    else (cutEntries rest).map fun (entries, rest) => (marker :: a :: b :: c :: entries, rest)
  | _ => none

/-- The bytes of a header, which are all that a core takes off the stream, whatever it makes of them. -/
def cutHeader (input : Bytes) : Option (Bytes × Bytes) := do
  let (first, rest) ← input.cut 4
  let (entries, rest) ← cutEntries rest
  return (first ++ entries, rest)

def earlyEnd : Error := .stream .unexpectedEof "early eof"

/-- A core's side: takes a header from a stream that ends, chooses the first entry of the datastream
protocol, and the offered layers that are its own too. -/
def ofStream (own : Layers) (input : Bytes) : Except Error Acceptance :=
  match cutHeader input with
  | none => .error earlyEnd
  | some (taken, rest) =>
    match ClientHeader.decode taken with
    | .error reason _ => .error reason
    | .ok header _ =>
      match header.protocols.find? (·.version = .datastream) with
      | none => .error (.unsupportedVersion ProtocolVersion.legacy.toByte)
      | some protocol => .ok ⟨header, ⟨own.intersect header.features, protocol⟩, rest⟩

end Acceptance
end Datastream
