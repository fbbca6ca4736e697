import Datastream.Handshake.Message
import Datastream.Metrics
import Datastream.Proxy.Message

/-!
# Links

The sending side of a connection, and what both sides know about its encoding. Sending puts a
payload into the outbox and never waits; it fails only when nobody takes payloads out any more.

Models `emit`, `emit_handshake` and `emit_signal_proxy`.
-/
namespace Datastream

/-- The sending side of a connection. -/
structure Link where
  registry : Registry := Registry.standard
  /-- The features in force. -/
  features : FeatureSet := FeatureSet.none
  /-- The payloads that wait to be written, oldest first. -/
  outbox : List Bytes := []
  closed : Bool := false
  metrics : Metrics := {}

namespace Link

def emit (payload : Bytes) : EStateM Error Link Unit := fun l =>
  if l.closed then .error .connectionClosed l
  else .ok () { l with
    outbox := l.outbox ++ [payload]
    metrics := l.metrics.frameSent (UInt64.ofNat payload.length) }

/-- Sends what a message encodes to, if it does. -/
def emitEncoded (payload : Except Error Bytes) : EStateM Error Link Unit := fun l =>
  match payload with
  | .error error => .error error l
  | .ok payload => emit payload l

def emitHandshake (m : HandshakeMessage) : EStateM Error Link Unit := fun l =>
  emitEncoded (m.encode l.registry l.features) l

def emitProxy (m : ProxyMessage) : EStateM Error Link Unit := fun l =>
  emitEncoded (m.encode l.registry l.features) l

def count (f : Metrics → Metrics) (l : Link) : Link := { l with metrics := f l.metrics }

def describe (l : Link) : String := "FrameSink \x7b closed: " ++ toString l.closed ++ " \x7d"

end Link
end Datastream
