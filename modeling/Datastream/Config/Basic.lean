import Datastream.Error
import Datastream.Text.Numeral

/-!
# Configuration

The settings of a client, and what can be wrong with them. Durations are in milliseconds. Checking a
configuration lists every problem; a few of them are warnings only, and count all the same where the
configuration has to be flawless.

Models `validate` of the whole and of each part (`problems`), `validate_strict` (`check`), `host_of`
and `env_filter`.
-/
namespace Datastream

/-- How much is logged. -/
inductive LogLevel
  | error
  | warn
  | info
  | debug
  | trace
  deriving DecidableEq, Repr

namespace LogLevel

def all : List LogLevel := [error, warn, info, debug, trace]

def name : LogLevel → String
  | error => "ERROR"
  | warn => "WARN"
  | info => "INFO"
  | debug => "DEBUG"
  | trace => "TRACE"

/-- The text of a filter that lets a level pass. -/
def filter (level : LogLevel) : String := level.name.map Char.toLower

/-- A level by number, or by name in any case of its letters. -/
def parse? (s : String) : Option LogLevel :=
  match Numeral.parse? 0x10000000000000000 s with
  | some 0 => none
  | some (n + 1) => all[n]?
  | none => all.find? fun level => level.filter == s.map Char.toLower

end LogLevel

/-- Who connects to which core, and how long it may take. -/
structure ClientConfig where
  /-- Host and port of the core. -/
  address : String := "127.0.0.1:4242"
  user : Option String := none
  connectionTimeout : Nat := 10000
  /-- For negotiation and for each step of the handshake. -/
  handshakeTimeout : Nat := 10000
  heartbeatInterval : Nat := 30000
  clientVersion : String := "quassel-protocol v0.1.0"
  clientDate : String := ""
  deriving DecidableEq, Repr

/-- What layers are offered, and how large frames may be. -/
structure TransportConfig where
  offerTls : Bool := true
  offerCompression : Bool := true
  compressionLevel : Nat := 6
  maxFrameSize : Nat := 67108864
  deriving DecidableEq, Repr

structure TlsConfig where
  /-- The name that the certificate has to be for, unless it is the host of the address. -/
  serverName : Option String := none
  caFile : Option String := none
  /-- The hash of the only certificate that is accepted. -/
  pinnedSha256 : Option String := none
  /-- Whether every certificate is accepted. -/
  insecure : Bool := false
  deriving DecidableEq, Repr

structure LoggingConfig where
  appName : String := "quassel-protocol"
  logLevel : LogLevel := .info
  jsonFormat : Bool := false
  ansiColors : Bool := true
  deriving DecidableEq, Repr

structure Config where
  client : ClientConfig := {}
  transport : TransportConfig := {}
  tls : TlsConfig := {}
  logging : LoggingConfig := {}
  deriving DecidableEq, Repr

def problem (found : Bool) (text : String) : List String := if found then [text] else []

/-- Two problems of which the first hides the second. -/
def eitherProblem (first : Bool) (text : String) (second : Bool) (text' : String) : List String :=
  if first then [text] else problem second text'

namespace ClientConfig

/-- Host and port of an address, which the last colon separates. -/
def splitAddress (address : String) : Option (String × String) :=
  let cs := address.toList.reverse
  match cs.dropWhile (· ≠ ':') with
  | [] => none
  | _ :: host =>
    some (String.ofList host.reverse, String.ofList (cs.takeWhile (· ≠ ':')).reverse)

def addressOk (address : String) : Bool :=
  match splitAddress address with
  | some (host, port) => !host.isEmpty && (Numeral.parse? 65536 port).isSome
  | none => false

/-- The host of an address, without the brackets of a numeric one. -/
def hostOf (address : String) : String :=
  match splitAddress address with
  | some (host, _) =>
    String.ofList ((host.toList.dropWhile (· = '[')).reverse.dropWhile (· = ']')).reverse
  | none => address

def problems (c : ClientConfig) : List String :=
  problem (!addressOk c.address)
    ("Invalid core address: '" ++ c.address ++ "' (expected format: 'core.example.org:4242')") ++
  eitherProblem (c.connectionTimeout < 100) "Connection timeout too short (minimum: 100ms)"
    (300 < c.connectionTimeout / 1000) "Connection timeout too long (maximum: 300s)" ++
  problem (c.handshakeTimeout < 100) "Handshake timeout too short (minimum: 100ms)" ++
  eitherProblem (c.heartbeatInterval / 1000 < 1) "Heartbeat interval too short (minimum: 1s)"
    (3600 < c.heartbeatInterval / 1000) "Heartbeat interval too long (maximum: 1 hour)" ++
  problem c.clientVersion.isEmpty "Client version cannot be empty"

end ClientConfig

namespace TransportConfig

def problems (t : TransportConfig) : List String :=
  eitherProblem (t.maxFrameSize < 1024) "Max frame size too small (minimum: 1 KB)"
    (4294967295 < t.maxFrameSize)
    ("Max frame size too large: " ++ toString t.maxFrameSize ++
      " bytes (length prefix is 32 bits)") ++
  problem (t.offerCompression && 9 < t.compressionLevel)
    ("Invalid compression level: " ++ toString t.compressionLevel ++ " (valid range: 0-9)") ++
  problem (!t.offerTls) "WARNING: TLS is not offered - credentials travel in clear text"

end TransportConfig

namespace TlsConfig

def isHexDigit (c : Char) : Bool :=
  ('0' ≤ c && c ≤ '9') || ('a' ≤ c && c ≤ 'f') || ('A' ≤ c && c ≤ 'F')

/-- Whether a text is the hash of a certificate: sixty-four digits, colons put aside. -/
def pinOk (pin : String) : Bool :=
  let digits := pin.toList.filter (· ≠ ':')
  digits.length = 64 && digits.all isHexDigit

/-- The caller tells which files there are. -/
def problems (exist : String → Bool) (t : TlsConfig) (transport : TransportConfig) : List String :=
  (t.caFile.toList.flatMap fun path =>
    problem (!exist path) ("CA file does not exist: " ++ path)) ++
  (t.pinnedSha256.toList.flatMap fun pin =>
    problem (!pinOk pin) ("Pinned certificate hash is not a SHA-256 hex digest: " ++ pin)) ++
  problem (t.insecure && transport.offerTls)
    "WARNING: Certificate verification is disabled - not recommended for production"

end TlsConfig

namespace LoggingConfig

def problems (l : LoggingConfig) : List String :=
  eitherProblem l.appName.isEmpty "Application name cannot be empty" (64 < l.appName.utf8ByteSize)
    ("Application name too long: " ++ toString l.appName.utf8ByteSize ++
      " characters (maximum: 64)") ++
  problem (l.jsonFormat && l.ansiColors) "ANSI colors have no effect with JSON formatting"

end LoggingConfig

namespace Config

/-- Every problem of a configuration. -/
def problems (exist : String → Bool) (c : Config) : List String :=
  c.client.problems ++ c.transport.problems ++ c.tls.problems exist c.transport ++
    c.logging.problems

def check (exist : String → Bool) (c : Config) : Except Error Unit :=
  match c.problems exist with
  | [] => .ok ()
  | list => .error (.config ("Configuration validation failed:\n  - " ++ "\n  - ".intercalate list))

end Config
end Datastream
