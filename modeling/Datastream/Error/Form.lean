import Datastream.Datum
import Datastream.Error

/-!
# Errors as data

An error can be handed to other programs as plain data: the name of its kind, alone or with its
content. `ofForm?` reads such data back, strictly in types and ranges, leniently in fields that it
does not know. Failures of the byte stream are not handed on.
-/
namespace Datastream

namespace Error

def kind : Error → String
  | stream .. => "Io"
  | unknownType _ => "UnknownWireType"
  | unknownNamedType _ => "UnknownCustomType"
  | truncated .. => "Truncated"
  | malformed _ => "MalformedValue"
  | typeMismatch .. => "TypeMismatch"
  | wrongParameter .. => "WrongParameterType"
  | initRejected _ => "InitError"
  | loginRejected _ => "LoginError"
  | setupRejected _ => "SetupError"
  | unexpectedMessage _ => "UnexpectedMessage"
  | unsupportedVersion _ => "UnsupportedVersion"
  | invokerNotFound _ => "InvokerNotFound"
  | unknownMethod .. => "UnknownMethod"
  | wrongObject _ => "WrongObjectType"
  | objectNotFound .. => "SyncableNotFound"
  | listingFailed _ => "ChannelListError"
  | connectionClosed => "ConnectionClosed"
  | layer _ => "TransportError"
  | oversizedFrame _ => "OversizedPacket"
  | compressionFailed _ => "CompressionFailure"
  | decompressionFailed _ => "DecompressionFailure"
  | timeout => "Timeout"
  | tls _ => "TlsError"
  | config _ => "ConfigError"
  | lockPoisoned _ => "LockPoisoned"

def content : Error → Datum
  | stream .. | connectionClosed | timeout => .null
  | unknownType id => .whole id.toInt
  | truncated needed remaining => .record [("needed", .whole needed), ("remaining", .whole remaining)]
  | malformed cause => .text cause.text
  | layer fault => .text fault.text
  | typeMismatch expected actual => .record [("expected", .text expected), ("actual", .text actual)]
  | wrongParameter method index => .record [("method", .text method), ("index", .whole index)]
  | unsupportedVersion version => .whole version.toNat
  | unknownMethod className method =>
    .record [("class_name", .text className), ("method", .text method)]
  | objectNotFound className objectName =>
    .record [("class_name", .text className), ("object_name", .text objectName)]
  | oversizedFrame length => .whole length
  | unknownNamedType s | initRejected s | loginRejected s | setupRejected s | unexpectedMessage s
  | invokerNotFound s | wrongObject s | listingFailed s | compressionFailed s
  | decompressionFailed s | tls s | config s | lockPoisoned s => .text s

/-- An error as data: the kind alone, or the kind with its content. -/
def toForm (e : Error) : Datum :=
  match e.content with
  | .null => .text e.kind
  | content => .record [(e.kind, content)]

/-- The kinds that have one text for their content. -/
def ofText? (kind s : String) : Option Error :=
  match kind with
  | "UnknownCustomType" => some (unknownNamedType s)
  | "MalformedValue" => some (malformed (.other s))
  | "InitError" => some (initRejected s)
  | "LoginError" => some (loginRejected s)
  | "SetupError" => some (setupRejected s)
  | "UnexpectedMessage" => some (unexpectedMessage s)
  | "InvokerNotFound" => some (invokerNotFound s)
  | "WrongObjectType" => some (wrongObject s)
  | "ChannelListError" => some (listingFailed s)
  | "TransportError" => some (layer (.other s))
  | "CompressionFailure" => some (compressionFailed s)
  | "DecompressionFailure" => some (decompressionFailed s)
  | "TlsError" => some (tls s)
  | "ConfigError" => some (config s)
  | "LockPoisoned" => some (lockPoisoned s)
  | _ => none

def ofContent? (kind : String) (d : Datum) : Option Error :=
  match kind, d with
  | "ConnectionClosed", .null => some connectionClosed
  | "Timeout", .null => some timeout
  | "UnknownWireType", d =>
    (d.wholeIn? (-2147483648) 2147483647).map fun n => unknownType (Int32.ofInt n)
  | "Truncated", d =>
    (d.pair? "needed" "remaining" Datum.length? Datum.length?).map fun p => truncated p.1 p.2
  | "TypeMismatch", d =>
    (d.pair? "expected" "actual" Datum.text? Datum.text?).map fun p => typeMismatch p.1 p.2
  | "WrongParameterType", d =>
    (d.pair? "method" "index" Datum.text? Datum.length?).map fun p => wrongParameter p.1 p.2
  | "UnsupportedVersion", d =>
    (d.wholeIn? 0 255).map fun n => unsupportedVersion (UInt8.ofNat n.toNat)
  | "UnknownMethod", d =>
    (d.pair? "class_name" "method" Datum.text? Datum.text?).map fun p => unknownMethod p.1 p.2
  | "SyncableNotFound", d =>
    (d.pair? "class_name" "object_name" Datum.text? Datum.text?).map fun p => objectNotFound p.1 p.2
  | "OversizedPacket", d => d.length?.map oversizedFrame
  | kind, .text s => ofText? kind s
  | _, _ => none

def ofForm? : Datum → Option Error
  | .text kind => ofContent? kind .null
  | .record [(kind, content)] => ofContent? kind content
  | _ => none

end Error
end Datastream
