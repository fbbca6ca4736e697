import Datastream.Handshake.Message
import Datastream.Queue.Keyed

/-!
# The handshake

The client's side of the handshake. Requests wait for their replies under the names of the message
kinds that answer them. The description of the session, with which the handshake ends, is kept until
somebody collects it, for it may come before anyone asks.

Models the handler's `read` (`receive`) and `close`, `take_session` (`collect`), and what `init`,
`configure_core` and `login` make of their replies (`coreState`, `setupDone`, `loggedIn`).
-/
namespace Datastream

/-- What the core tells when the session starts. -/
structure SessionState where
  identities : List Value
  buffers : List BufferInfo
  networks : List NetworkId
  deriving Repr

/-- Where the description of the session is kept. -/
inductive SessionSlot
  | pending
  | ready (state : SessionState)
  | closed
  deriving Repr

inductive CoreState
  | configured
  | unconfigured (backends authenticators : List Value)
  deriving Repr

/-- The client's side of the handshake. -/
structure Handshake where
  replies : KeyedQueue String HandshakeMessage := {}
  slot : SessionSlot := .pending
  /-- What the core said it can do. -/
  coreFeatures : Option FeatureSet := none

namespace Handshake

/-- The name under which the handshake takes part in a connection. -/
def name : String := "handshake"

/-- Takes a message; says whether it ends the handshake. Messages that are no reply are ignored. -/
def receive (h : Handshake) (m : HandshakeMessage) : Bool × Handshake :=
  match m with
  | .sessionInit identities buffers networks =>
    (true, { h with slot := .ready ⟨identities, buffers, networks⟩ })
  | .clientInitAck .. | .clientInitReject _ | .coreSetupAck | .coreSetupReject _
  | .clientLoginAck | .clientLoginReject _ =>
    (false, { h with replies := (h.replies.resume m.kind m).2 })
  | .clientInit .. | .clientLogin .. | .coreSetupData .. => (false, h)

/-- Collects the description of the session. Once closed the slot stays closed. -/
def collect (h : Handshake) : Option (Except Error SessionState) × Handshake :=
  match h.slot with
  | .pending => (none, h)
  | .ready state => (some (.ok state), { h with slot := .pending })
  | .closed => (some (.error .connectionClosed), h)

/-- Fails all requests; a description that came stays. -/
def close (h : Handshake) : Handshake where
  replies := h.replies.close
  slot := match h.slot with
    | .pending => .closed
    | slot => slot
  coreFeatures := h.coreFeatures

/-- What an answer to the request for a start means. -/
def coreState : HandshakeMessage → Except Error CoreState
  | .clientInitAck _ backends authenticators configured =>
    match configured with
    | some true => .ok .configured
    | some false => .ok (.unconfigured backends authenticators)
    | none => .error (.initRejected Error.unknownReason)
  | .clientInitReject reason => .error (.initRejected (reason.getD Error.unknownReason))
  | other => .error (.unexpectedMessage other.kind)

/-- What an answer to the setup of the core means. -/
def setupDone : HandshakeMessage → Except Error Unit
  | .coreSetupAck => .ok ()
  | .coreSetupReject reason => .error (.setupRejected (reason.getD Error.unknownReason))
  | other => .error (.unexpectedMessage other.kind)

def loggedIn : HandshakeMessage → Except Error Unit
  | .clientLoginAck => .ok ()
  | .clientLoginReject reason => .error (.loginRejected (reason.getD Error.unknownReason))
  | other => .error (.unexpectedMessage other.kind)

end Handshake
end Datastream
