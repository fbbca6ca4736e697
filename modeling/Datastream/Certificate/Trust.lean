import Datastream.Certificate.Sha256
import Datastream.Config.Basic
import Datastream.Net.HostName
import Datastream.Text.Utf8

/-!
# Trust in certificates

Which certificates a client accepts from the core. A core mostly has a certificate that it signed
itself, so the way to recognize it is the hash of that one certificate, its pin. A pin is stricter
than any authority and goes before every other setting.

Models `parse_fingerprint` (`Pin.parse`), `from_config`, `server_name` (`checkName`), and
`verify_server_cert` and `load_client_config` as far as no authority is asked (`accepts?`, `load?`).
-/
namespace Datastream

namespace Pin

/-- Reads two digits, of which the first may be a plus sign. -/
def byte? (high low : UInt8) : Option UInt8 := do
  let value (b : UInt8) : Option Nat := Hex.value? (Char.ofNat b.toNat)
  let low ← value low
  let high ← if high = 43 then some 0 else value high
  return UInt8.ofNat (high * 16 + low)

def pairs? : Bytes → Option Bytes
  | high :: low :: rest => do return (← byte? high low) :: (← pairs? rest)
  | _ => some []

/-- The hash that a text spells; colons in it are passed over. -/
def parse (text : String) : Except Error Bytes :=
  let digits := (Utf8.encode text).filter (· ≠ 58)
  if digits.length % 2 ≠ 0 then
    .error (.config ("Fingerprint has an odd number of hex digits: " ++ text))
  else
    match pairs? digits with
    | some hash => .ok hash
    | none => .error (.config ("Invalid fingerprint: " ++ text))

end Pin

inductive Trust
  /-- That it has this hash. -/
  | pinned (hash : Bytes)
  /-- Nothing: every certificate is accepted. -/
  | blind
  /-- That an authority signed it, of the system or of a file. -/
  | authorities (file : Option String)
  deriving DecidableEq, Repr

structure TlsClient where
  /-- The name that the certificate has to be for. -/
  serverName : String
  trust : Trust
  deriving DecidableEq, Repr

namespace TlsClient

/-- The client that settings describe, for a host that names the core unless the settings do. -/
def ofConfig (c : TlsConfig) (host : String) : Except Error TlsClient := do
  let serverName := c.serverName.getD host
  let pin ← c.pinnedSha256.mapM Pin.parse
  match pin with
  | some hash => return ⟨serverName, .pinned hash⟩
  | none => return ⟨serverName, if c.insecure then .blind else .authorities c.caFile⟩

/-- Refuses a server name that cannot name a host. -/
def checkName (t : TlsClient) : Except Error Unit :=
  if HostName.valid t.serverName then .ok () else .error (.tls "Invalid server name")

/-- Whether a certificate is accepted without asking an authority; nothing if one has to be
asked. -/
def accepts? (t : TlsClient) (certificate : Bytes) : Option Bool :=
  match t.trust with
  | .pinned hash => some (Sha256.hash certificate == hash)
  | .blind => some true
  | .authorities _ => none

/-- The trust settings are complete if no authority has to be loaded. -/
def load? (t : TlsClient) : Option (Except Error Unit) :=
  match t.trust with
  | .authorities _ => none
  | _ => some (.ok ())

/-- Why a handshake fails before it begins, if it is known to: the settings or the name are no good. -/
def fault? (t : TlsClient) : Option Error :=
  match t.load? with
  | none => none
  | some loaded =>
    match loaded, t.checkName with
    | .error fault, _ | .ok _, .error fault => some fault
    | .ok _, .ok _ => none

end TlsClient
end Datastream
