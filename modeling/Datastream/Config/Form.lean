import Datastream.Config.Toml
import Datastream.Datum

/-!
# Configurations as data

Settings are given as the fields of one flat record, and those that are not given have their
defaults. A configuration is shown part by part, with its problems.
-/
namespace Datastream

open Datum

instance : ToDatum ClientConfig := ⟨fun c => record [
  ("address", toDatum c.address), ("user", toDatum c.user),
  ("connection_timeout", decimal c.connectionTimeout),
  ("handshake_timeout", decimal c.handshakeTimeout),
  ("heartbeat_interval", decimal c.heartbeatInterval),
  ("client_version", toDatum c.clientVersion), ("client_date", toDatum c.clientDate)]⟩

instance : ToDatum TransportConfig := ⟨fun t => record [
  ("offer_tls", toDatum t.offerTls), ("offer_compression", toDatum t.offerCompression),
  ("compression_level", toDatum t.compressionLevel), ("max_frame_size", decimal t.maxFrameSize)]⟩

instance : ToDatum TlsConfig := ⟨fun t => record [
  ("server_name", toDatum t.serverName), ("ca_file", toDatum t.caFile),
  ("pinned_sha256", toDatum t.pinnedSha256), ("insecure", toDatum t.insecure)]⟩

instance : ToDatum LoggingConfig := ⟨fun l => record [
  ("app_name", toDatum l.appName), ("log_level", toDatum l.logLevel.name),
  ("json_format", toDatum l.jsonFormat), ("ansi_colors", toDatum l.ansiColors)]⟩

instance : OfDatum LogLevel := ⟨fun d => d.text?.bind LogLevel.parse?⟩

namespace Config

def ofForm? (d : Datum) : Option Config := do
  let base : Config := {}
  let get {α : Type} [OfDatum α] (name : String) (missing : α) : Option α := do
    let given : Option α ← d.read name
    return given.getD missing
  return {
    client := {
      address := ← get "address" base.client.address
      user := ← d.read "user"
      connectionTimeout := ← get "connection_timeout" base.client.connectionTimeout
      handshakeTimeout := ← get "handshake_timeout" base.client.handshakeTimeout
      heartbeatInterval := ← get "heartbeat_interval" base.client.heartbeatInterval
      clientVersion := ← get "client_version" base.client.clientVersion
      clientDate := ← get "client_date" base.client.clientDate }
    transport := {
      offerTls := ← get "offer_tls" base.transport.offerTls
      offerCompression := ← get "offer_compression" base.transport.offerCompression
      compressionLevel := ← get "compression_level" base.transport.compressionLevel
      maxFrameSize := ← get "max_frame_size" base.transport.maxFrameSize }
    tls := {
      serverName := ← d.read "server_name"
      caFile := ← d.read "ca_file"
      pinnedSha256 := ← d.read "pinned_sha256"
      insecure := ← get "insecure" base.tls.insecure }
    logging := {
      appName := ← get "app_name" base.logging.appName
      logLevel := ← get "log_level" base.logging.logLevel
      jsonFormat := ← get "json_format" base.logging.jsonFormat
      ansiColors := ← get "ansi_colors" base.logging.ansiColors } }

def partForms (c : Config) : List (String × Datum) :=
  [("client", toDatum c.client), ("transport", toDatum c.transport), ("tls", toDatum c.tls),
    ("logging", toDatum c.logging), ("filter", toDatum c.logging.logLevel.filter)]

end Config

instance : OfDatum Config := ⟨Config.ofForm?⟩

end Datastream
