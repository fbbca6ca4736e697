/-!
# Metrics

What a connection counts. Counters are 64-bit words and wrap.

Models the functions that count, from `frame_sent` to `heartbeat_reply`.
-/
namespace Datastream

/-- The counters of a connection. -/
structure Metrics where
  framesSent : UInt64 := 0
  framesReceived : UInt64 := 0
  bytesSent : UInt64 := 0
  bytesReceived : UInt64 := 0
  syncs : UInt64 := 0
  rpcs : UInt64 := 0
  routingErrors : UInt64 := 0
  heartbeatsSent : UInt64 := 0
  heartbeatReplies : UInt64 := 0
  deriving DecidableEq, Repr

namespace Metrics

def frameSent (m : Metrics) (size : UInt64) : Metrics :=
  { m with framesSent := m.framesSent + 1, bytesSent := m.bytesSent + size }

def frameReceived (m : Metrics) (size : UInt64) : Metrics :=
  { m with framesReceived := m.framesReceived + 1, bytesReceived := m.bytesReceived + size }

def sync (m : Metrics) : Metrics := { m with syncs := m.syncs + 1 }

def rpc (m : Metrics) : Metrics := { m with rpcs := m.rpcs + 1 }

/-- Counts an inbound message that was dropped because it could not be routed. -/
def routingError (m : Metrics) : Metrics := { m with routingErrors := m.routingErrors + 1 }

def heartbeatSent (m : Metrics) : Metrics := { m with heartbeatsSent := m.heartbeatsSent + 1 }

def heartbeatReply (m : Metrics) : Metrics := { m with heartbeatReplies := m.heartbeatReplies + 1 }

end Metrics
end Datastream
