import Datastream.Handshake.Form
import Datastream.Session.Call

/-!
# Sessions as plain data

What a session tells the program: events, answers to calls, counters.
-/
namespace Datastream

open Datum

instance : ToDatum Event := ⟨fun
  | .message m => record [("DisplayMessage", toDatum m)]
  | .statusMessage network message => record [("DisplayStatusMessage", record
    [("network", text network), ("message", text message)])]
  | .objectRenamed className newName oldName => record [("ObjectRenamed", record
    [("class", text className), ("new", text newName), ("old", text oldName)])]
  | .bufferUpdated info => record [("BufferInfoUpdated", toDatum info)]
  | .identityCreated identity => record [("IdentityCreated", toDatum identity)]
  | .identityRemoved id => record [("IdentityRemoved", toDatum id)]
  | .networkCreated id => record [("NetworkCreated", toDatum id)]
  | .networkRemoved id => record [("NetworkRemoved", toDatum id)]
  | .passwordChanged peer success => record [("PasswordChanged", record
    [("peer", toDatum peer), ("success", toDatum success)])]
  | .disconnected => record [("DisconnectFromCore", null)]
  | .closed => record [("Closed", null)]⟩

instance : ToDatum FoundChannel := ⟨fun c => record
  [("network", toDatum c.network), ("name", text c.name), ("users", toDatum c.users),
   ("topic", text c.topic)]⟩

instance : ToDatum Answer := ⟨fun
  | .core state => toDatum state
  | .done => text "ok"
  | .initialized => text "finished"
  | .sessionState state => toDatum state
  | .messages list => toDatum list
  | .channels list => toDatum list⟩

def Metrics.number (n : UInt64) : Datum := whole n.toNat

instance : ToDatum Metrics := ⟨fun m => record
  [("frames_sent", Metrics.number m.framesSent),
   ("frames_received", Metrics.number m.framesReceived),
   ("bytes_sent", Metrics.number m.bytesSent), ("bytes_received", Metrics.number m.bytesReceived),
   ("sync", Metrics.number m.syncs), ("rpc", Metrics.number m.rpcs),
   ("dispatch_errors", Metrics.number m.routingErrors),
   ("heartbeats_sent", Metrics.number m.heartbeatsSent),
   ("heartbeat_replies", Metrics.number m.heartbeatReplies)]⟩

/-- A latency, of which only the sign is told. -/
def Heartbeat.latencyForm (h : Heartbeat) : Datum :=
  match h.latency with
  | none => null
  | some 0 => text "zero"
  | some _ => text "positive"

/-- A backlog request: its kind, and the numbers that the kind uses. -/
instance : OfDatum BacklogRequest := ⟨fun d => do
  let number {α : Type} [OfDatum α] (name : String) : Option α :=
    match d.field name with
    | null => ofDatum? (whole 0)
    | n => ofDatum? n
  let buffer ← number "buffer_id"
  let first ← number "first"
  let last ← number "last"
  let limit ← number "limit"
  let additional ← number "additional"
  let type ← number "type"
  let flags ← number "flags"
  match ← d.read "kind" with
  | "Buffer" => return .buffer buffer first last limit additional
  | "BufferFiltered" => return .bufferFiltered buffer first last limit additional type flags
  | "BufferForward" => return .bufferForward buffer first last limit type flags
  | "All" => return .all first last limit additional
  | "AllFiltered" => return .allFiltered first last limit additional type flags
  | _ => none⟩

end Datastream
