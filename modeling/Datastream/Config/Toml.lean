import Datastream.Config.Basic
import Datastream.Text.Utf8
import Datastream.Toml.Parser
import Datastream.Toml.Quoted

/-!
# Configuration files

A configuration as a TOML document, with a table for each part. A part that is missing has its
defaults; a part that is there has to be complete, except for the settings that are optional. What
is not a setting is passed over. A part may also be an array of its settings in order.

Models `from_toml`, `from_file`, `save_to_file` and `example_config` (`sample`).
-/
namespace Datastream

open Toml (Item Entries)

namespace Config

inductive Source
  | named (entries : Entries)
  | ordered (items : List Item)

/-- What is read as nothing when it does not have the right type. -/
abbrev Readable := Option

namespace Source

def item? : Source → String → Nat → Option Item
  | named entries, name, _ => entries.find? name
  | ordered items, _, place => items[place]?

variable {α : Type} (s : Source) (read : Item → Readable α) (name : String) (place : Nat)

/-- A setting that has to be there. -/
def required : Readable α := (s.item? name place).bind read

/-- A setting that may be missing. -/
def optional : Readable (Option α) :=
  match s.item? name place with
  | none => some none
  | some item => some <$> read item

end Source

def text? : Item → Readable String
  | .string s => some s
  | _ => none

def flag? : Item → Readable Bool
  | .boolean b => some b
  | _ => none

def numberBelow? (bound : Nat) : Item → Readable Nat
  | .integer (.ofNat n) => if n < bound then some n else none
  | _ => none

def word64? : Item → Readable Nat := numberBelow? 0x10000000000000000

def level? (item : Item) : Readable LogLevel := (text? item).bind LogLevel.parse?

def client? (s : Source) : Readable ClientConfig := do
  return {
    address := ← s.required text? "address" 0
    user := ← s.optional text? "user" 1
    connectionTimeout := ← s.required word64? "connection_timeout" 2
    handshakeTimeout := ← s.required word64? "handshake_timeout" 3
    heartbeatInterval := ← s.required word64? "heartbeat_interval" 4
    clientVersion := ← s.required text? "client_version" 5
    clientDate := ← s.required text? "client_date" 6 }

def transport? (s : Source) : Readable TransportConfig := do
  return {
    offerTls := ← s.required flag? "offer_tls" 0
    offerCompression := ← s.required flag? "offer_compression" 1
    compressionLevel := ← s.required (numberBelow? 0x100000000) "compression_level" 2
    maxFrameSize := ← s.required word64? "max_frame_size" 3 }

def tls? (s : Source) : Readable TlsConfig := do
  return {
    serverName := ← s.optional text? "server_name" 0
    caFile := ← s.optional text? "ca_file" 1
    pinnedSha256 := ← s.optional text? "pinned_sha256" 2
    insecure := (← s.optional flag? "insecure" 3).getD false }

def logging? (s : Source) : Readable LoggingConfig := do
  return {
    appName := ← s.required text? "app_name" 0
    logLevel := ← s.required level? "log_level" 1
    jsonFormat := ← s.required flag? "json_format" 2
    ansiColors := ← s.required flag? "ansi_colors" 3 }

/-- A part of a document, or its defaults if it is missing. -/
def part {α : Type} (entries : Entries) (name : String) (read : Source → Readable α) (missing : α) :
    Readable α :=
  match entries.find? name with
  | none => some missing
  | some (.table _ entries) => read (.named entries)
  | some (.array items) => read (.ordered items)
  | some (.tables list) => read (.ordered (list.map (.table .header ·)))
  | some _ => none

/-- The configuration that a document describes. -/
def ofEntries? (entries : Entries) : Readable Config := do
  return {
    client := ← part entries "client" client? {}
    transport := ← part entries "transport" transport? {}
    tls := ← part entries "tls" tls? {}
    logging := ← part entries "logging" logging? {} }

def ofToml (text : String) : Except Error Config :=
  match (Toml.parse? text).bind ofEntries? with
  | some c => .ok c
  | none => .error (.config "Failed to parse TOML")

/-- The configuration in a file: its contents, if there is such a file. -/
def ofFile (contents : Option Bytes) : Except Error Config :=
  match contents with
  | none => .error (.config "Failed to open config file")
  | some bytes =>
    let text := Utf8.decode bytes
    if Utf8.encode text = bytes then ofToml text
    else .error (.config "Failed to read config file")

def flagText (b : Bool) : String := if b then "true" else "false"

def line (name value : String) : String := name ++ " = " ++ value ++ "\n"

def optionalLine (name : String) : Option String → String
  | none => ""
  | some value => line name (Toml.quote value)

/-- The largest number that TOML has. -/
def maxInteger : Nat := 9223372036854775807

/-- The text of a configuration, unless a number in it is too large. -/
def toToml (c : Config) : Except Error String :=
  let numbers := [c.client.connectionTimeout, c.client.handshakeTimeout, c.client.heartbeatInterval,
    c.transport.compressionLevel, c.transport.maxFrameSize]
  if numbers.any (maxInteger < ·) then .error (.config "Failed to serialize config")
  else .ok <|
    "[client]\n" ++
    line "address" (Toml.quote c.client.address) ++
    optionalLine "user" c.client.user ++
    line "connection_timeout" (toString c.client.connectionTimeout) ++
    line "handshake_timeout" (toString c.client.handshakeTimeout) ++
    line "heartbeat_interval" (toString c.client.heartbeatInterval) ++
    line "client_version" (Toml.quote c.client.clientVersion) ++
    line "client_date" (Toml.quote c.client.clientDate) ++
    "\n[transport]\n" ++
    line "offer_tls" (flagText c.transport.offerTls) ++
    line "offer_compression" (flagText c.transport.offerCompression) ++
    line "compression_level" (toString c.transport.compressionLevel) ++
    line "max_frame_size" (toString c.transport.maxFrameSize) ++
    "\n[tls]\n" ++
    optionalLine "server_name" c.tls.serverName ++
    optionalLine "ca_file" c.tls.caFile ++
    optionalLine "pinned_sha256" c.tls.pinnedSha256 ++
    line "insecure" (flagText c.tls.insecure) ++
    "\n[logging]\n" ++
    line "app_name" (Toml.quote c.logging.appName) ++
    line "log_level" (Toml.quote c.logging.logLevel.filter) ++
    line "json_format" (flagText c.logging.jsonFormat) ++
    line "ansi_colors" (flagText c.logging.ansiColors)

def sample : Except Error String := toToml {}

end Config
end Datastream
