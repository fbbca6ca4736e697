import Datastream.Proxy.Message
import Datastream.Value.Form

/-!
# Signal proxy messages as plain data

A message is a record of one field, named by the kind of the message.
-/
namespace Datastream

open Datum

namespace ProxyMessage

def ofForm? : Datum → Option ProxyMessage
  | record [(kind, d)] =>
    match kind with
    | "Sync" => do
      return .sync (← d.read "class") (← d.read "object") (← d.read "slot") (← d.read "params")
    | "Rpc" => do return .rpc (← d.read "slot") (← d.read "params")
    | "InitRequest" => do return .initRequest (← d.read "class") (← d.read "object")
    | "InitData" => do
      return .initData (← d.read "class") (← d.read "object") (← d.readFields "data")
    | "HeartBeat" => .heartBeat <$> ofDatum? d
    | "HeartBeatReply" => .heartBeatReply <$> ofDatum? d
    | _ => none
  | _ => none

def toForm : ProxyMessage → Datum
  | .sync className objectName slot params => record [("Sync", record
    [("class", text className), ("object", text objectName), ("slot", text slot),
     ("params", toDatum params)])]
  | .rpc slot params => record [("Rpc", record [("slot", text slot), ("params", toDatum params)])]
  | .initRequest className objectName => record [("InitRequest", record
    [("class", text className), ("object", text objectName)])]
  | .initData className objectName state => record [("InitData", record
    [("class", text className), ("object", text objectName), ("data", toDatum state)])]
  | .heartBeat sent => record [("HeartBeat", toDatum sent)]
  | .heartBeatReply sent => record [("HeartBeatReply", toDatum sent)]

end ProxyMessage

instance : OfDatum ProxyMessage := ⟨ProxyMessage.ofForm?⟩
instance : ToDatum ProxyMessage := ⟨ProxyMessage.toForm⟩

end Datastream
