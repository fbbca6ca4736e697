import Datastream.Config.Basic

/-!
# Configuration by environment

Defaults, with what environment variables set instead. A value that cannot be read is refused.

Models `from_env`, which reads each variable by `env_parse` (`setting`).
-/
namespace Datastream.Config

abbrev Environment := String → Option String

/-- What stands before the name of each variable. -/
def namePrefix : String := "QUASSEL_PROTOCOL_"

def duration? : String → Option Nat := Numeral.parse? 0x10000000000000000

def boolean? : String → Option Bool
  | "true" => some true
  | "false" => some false
  | _ => none

def setting {α : Type} (env : Environment) (name : String) (read : String → Option α)
    (missing : α) : Except Error α :=
  let name := namePrefix ++ name
  match env name with
  | none => .ok missing
  | some raw =>
    match read raw with
    | some value => .ok value
    | none => .error (.config ("Invalid value for " ++ name ++ ": '" ++ raw ++ "'"))

def levelSetting (env : Environment) (missing : LogLevel) : Except Error LogLevel :=
  match env (namePrefix ++ "LOG_LEVEL") with
  | none => .ok missing
  | some raw =>
    match LogLevel.parse? raw with
    | some level => .ok level
    | none => .error (.config ("Invalid log level: " ++ raw))

/-- The configuration that an environment sets. -/
def ofEnvironment (env : Environment) : Except Error Config := do
  let base : Config := {}
  let address ← setting env "ADDRESS" some base.client.address
  let user ← setting env "USER" (fun s => some (some s)) base.client.user
  let connectionTimeout ←
    setting env "CONNECTION_TIMEOUT_MS" duration? base.client.connectionTimeout
  let handshakeTimeout ← setting env "HANDSHAKE_TIMEOUT_MS" duration? base.client.handshakeTimeout
  let heartbeatInterval ←
    setting env "HEARTBEAT_INTERVAL_MS" duration? base.client.heartbeatInterval
  let offerTls ← setting env "OFFER_TLS" boolean? base.transport.offerTls
  let offerCompression ← setting env "OFFER_COMPRESSION" boolean? base.transport.offerCompression
  let insecure ← setting env "TLS_INSECURE" boolean? base.tls.insecure
  let logLevel ← levelSetting env base.logging.logLevel
  return {
    client := { base.client with
      address, user, connectionTimeout, handshakeTimeout, heartbeatInterval }
    transport := { base.transport with offerTls, offerCompression }
    tls := { base.tls with insecure }
    logging := { base.logging with logLevel } }

end Datastream.Config
