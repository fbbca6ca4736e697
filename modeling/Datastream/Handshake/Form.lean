import Datastream.Handshake.Exchange
import Datastream.Value.Form

/-!
# Handshake messages as plain data

A message is a record of one field, named by the kind of the message.
-/
namespace Datastream

open Datum

namespace HandshakeMessage

def ofForm? : Datum → Option HandshakeMessage
  | record [(kind, d)] =>
    match kind with
    | "ClientInit" => do
      return .clientInit (← d.read "client_version") (← d.read "build_date") (← d.read "features")
    | "ClientInitAck" => do
      return .clientInitAck (← d.read "core_features") (← d.read "backend_info")
        (← d.read "authenticator_info") (← d.read "core_configured")
    | "ClientInitReject" => .clientInitReject <$> d.read "error"
    | "ClientLoginReject" => .clientLoginReject <$> d.read "error"
    | "CoreSetupReject" => .coreSetupReject <$> d.read "error"
    | "ClientLogin" => do return .clientLogin (← d.read "user") (← d.read "password")
    | "ClientLoginAck" => some .clientLoginAck
    | "CoreSetupAck" => some .coreSetupAck
    | "CoreSetupData" => do
      return .coreSetupData (← d.read "admin_user") (← d.read "admin_password")
        (← d.read "backend") (← d.readFields "setup_data") (← d.read "authenticator")
        (← d.readFields "auth_setup_data")
    | "SessionInit" => do
      return .sessionInit (← d.read "identities") (← d.read "buffer_infos") (← d.read "network_ids")
    | _ => none
  | _ => none

end HandshakeMessage

instance : OfDatum HandshakeMessage := ⟨HandshakeMessage.ofForm?⟩

instance : ToDatum SessionState := ⟨fun s => record
  [("identities", toDatum s.identities), ("buffer_infos", toDatum s.buffers),
   ("network_ids", toDatum s.networks)]⟩

instance : ToDatum HandshakeMessage := ⟨fun m => record [(m.kind, match m with
  | .clientInit version date features => record
    [("client_version", text version), ("build_date", text date), ("features", toDatum features)]
  | .clientInitAck features backends authenticators configured => record
    [("core_features", toDatum features), ("backend_info", toDatum backends),
     ("authenticator_info", toDatum authenticators), ("core_configured", toDatum configured)]
  | .clientInitReject reason | .clientLoginReject reason | .coreSetupReject reason =>
    record [("error", toDatum reason)]
  | .clientLogin user password => record [("user", text user), ("password", text password)]
  | .clientLoginAck | .coreSetupAck => null
  | .coreSetupData user password backend setup authenticator authSetup => record
    [("admin_user", text user), ("admin_password", text password), ("backend", text backend),
     ("setup_data", toDatum setup), ("authenticator", text authenticator),
     ("auth_setup_data", toDatum authSetup)]
  | .sessionInit identities buffers networks =>
    toDatum (SessionState.mk identities buffers networks))]⟩

instance : ToDatum CoreState := ⟨fun
  | .configured => text "Configured"
  | .unconfigured backends authenticators => record [("Unconfigured", record
    [("backend_info", toDatum backends), ("authenticator_info", toDatum authenticators)])]⟩

end Datastream
