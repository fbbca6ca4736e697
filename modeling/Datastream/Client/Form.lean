import Datastream.Client.Connection
import Datastream.Negotiation.Form
import Datastream.Session.Form

/-!
# Clients as plain data

What a client tells about itself.
-/
namespace Datastream

open Datum

instance : ToDatum Client := ⟨fun c =>
  let s := c.session
  record
    [("closed", .bool c.channel.isClosed), ("features", toDatum s.link.features),
     ("core_features", toDatum s.handshake.coreFeatures), ("negotiated", toDatum c.agreement),
     ("tls", .bool c.stack.isSecure), ("latency", s.heartbeat.latencyForm),
     ("metrics", toDatum s.link.metrics), ("objects", toDatum s.objectCount),
     ("init_pending", toDatum s.tracker.pending.length), ("debug", text c.describe)]⟩

end Datastream
