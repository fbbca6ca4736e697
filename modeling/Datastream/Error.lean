/-!
# Errors

Everything that can go wrong, named by its cause. `Error.message` is the one place that words it.
A malformed value and a refused stream layer have many causes, so each has a type of its own; the
cause `other` carries a text that this library did not word itself.

`isRouting` and `isRejection` model `is_dispatch_error` and `is_handshake_error`.
-/
namespace Datastream

/-- Why bytes, or a value, do not have the shape they must have. -/
inductive Malformation
  | negativeLength (length : Int)
  | lengthTooLarge (length : Nat)
  | negativeCount (count : Int)
  | oddUtf16Length (length : Nat)
  | nonAsciiName (name : String)
  | dateOutOfRange (date : String)
  | dayOutOfRange (julian : Int)
  | timeOutOfRange (millis : Int)
  | offsetOutOfRange (seconds : Int)
  | ambiguousOffset
  | nullTypeName
  | tooDeep
  | timestampOutOfRange
  | unsupportedAddress (protocol : UInt8)
  | badMagic (word : String)
  | fieldMissing (key : String)
  | fieldMistyped (key : String)
  | keyNotText (type : String)
  | keyWithoutValue
  | noMessageType
  | emptyProxyMessage
  | proxyKindNotInt (type : String)
  | unknownProxyKind (kind : Int)
  | proxyNameMissing (role : String)
  | noTimestamp
  | initKeyNotText (type className objectName : String)
  | initKeyWithoutValue (key : String)
  | other (text : String)
  deriving DecidableEq, Repr

namespace Malformation

def text : Malformation → String
  | negativeLength n => "negative length " ++ toString n
  | lengthTooLarge n => "length " ++ toString n ++ " exceeds i32"
  | negativeCount n => "negative element count " ++ toString n
  | oddUtf16Length n => "odd UTF-16 byte length " ++ toString n
  | nonAsciiName name => "non-ASCII type name '" ++ name ++ "'"
  | dateOutOfRange date => "date " ++ date ++ " out of range"
  | dayOutOfRange day => "julian day " ++ toString day ++ " out of range"
  | timeOutOfRange millis => "time of day " ++ toString millis ++ "ms out of range"
  | offsetOutOfRange seconds => "utc offset " ++ toString seconds ++ "s out of range"
  | ambiguousOffset => "ambiguous offset date-time"
  | nullTypeName => "User type name must not be null"
  | tooDeep => "Value nesting exceeds the depth limit"
  | timestampOutOfRange => "Message timestamp out of range"
  | unsupportedAddress protocol => "unsupported network layer protocol " ++ toString protocol
  | badMagic word => "bad magic 0x" ++ word
  | fieldMissing key => "handshake field '" ++ key ++ "' missing or mistyped"
  | fieldMistyped key => "handshake field '" ++ key ++ "' mistyped"
  | keyNotText type => "handshake key of type " ++ type ++ " is not a string"
  | keyWithoutValue => "Handshake list has a key without a value"
  | noMessageType => "Handshake message has no MsgType"
  | emptyProxyMessage => "Signal proxy message is empty"
  | proxyKindNotInt type => "signal proxy type must be Int, got " ++ type
  | unknownProxyKind kind => "unknown signal proxy message type " ++ toString kind
  | proxyNameMissing role => "signal proxy " ++ role ++ " missing"
  | noTimestamp => "heartbeat without timestamp"
  | initKeyNotText type className objectName =>
    "init data key of type " ++ type ++ " for " ++ className ++ ":" ++ objectName
  | initKeyWithoutValue key => "init data key '" ++ key ++ "' has no value"
  | other text => text

end Malformation

inductive LayerFault
  | tlsAlreadyEnabled
  | tlsAfterCompression
  | compressionAlreadyEnabled
  | tlsNotOffered
  | compressionNotOffered
  | other (text : String)
  deriving DecidableEq, Repr

def LayerFault.text : LayerFault → String
  | tlsAlreadyEnabled => "TLS is already enabled on this stream"
  | tlsAfterCompression => "TLS must be enabled before compression"
  | compressionAlreadyEnabled => "Compression is already enabled on this stream"
  | tlsNotOffered => "Core enabled TLS that was never offered"
  | compressionNotOffered => "Core enabled compression that was never offered"
  | other text => text

/-- How the byte stream under the connection failed. -/
inductive StreamFailure
  | invalidData
  | unexpectedEof
  | brokenPipe
  | writeZero
  deriving DecidableEq, Repr

def StreamFailure.name : StreamFailure → String
  | invalidData => "InvalidData"
  | unexpectedEof => "UnexpectedEof"
  | brokenPipe => "BrokenPipe"
  | writeZero => "WriteZero"

/-- Every way an operation of this library fails. -/
inductive Error
  | stream (failure : StreamFailure) (text : String)
  | unknownType (id : Int32)
  | unknownNamedType (name : String)
  | truncated (needed remaining : Nat)
  | malformed (cause : Malformation)
  | typeMismatch (expected actual : String)
  | wrongParameter (method : String) (index : Nat)
  | initRejected (reason : String)
  | loginRejected (reason : String)
  | setupRejected (reason : String)
  | unexpectedMessage (kind : String)
  | unsupportedVersion (version : UInt8)
  | invokerNotFound (className : String)
  | unknownMethod (className method : String)
  | wrongObject (className : String)
  | objectNotFound (className objectName : String)
  | listingFailed (reason : String)
  | connectionClosed
  | layer (fault : LayerFault)
  | oversizedFrame (length : Nat)
  | compressionFailed (reason : String)
  | decompressionFailed (reason : String)
  | timeout
  | tls (problem : String)
  | config (problem : String)
  | lockPoisoned (lock : String)
  deriving DecidableEq, Repr

namespace Error

def message : Error → String
  | stream _ text => text
  | unknownType id => "No serializer registered for wire type id " ++ toString id.toInt
  | unknownNamedType name => "No serializer registered for user type '" ++ name ++ "'"
  | truncated needed remaining =>
    "Truncated buffer: needed " ++ toString needed ++ " bytes, " ++ toString remaining ++ " remaining"
  | malformed cause => "Malformed value: " ++ cause.text
  | typeMismatch expected actual =>
    "Value of type " ++ actual ++ " cannot be serialized as " ++ expected
  | wrongParameter method index =>
    "Parameter " ++ toString index ++ " of '" ++ method ++ "' has the wrong type"
  | initRejected reason => "Core rejected client init: " ++ reason
  | loginRejected reason => "Core rejected login: " ++ reason
  | setupRejected reason => "Core rejected setup: " ++ reason
  | unexpectedMessage kind => "Unexpected message: " ++ kind
  | unsupportedVersion version => "Unsupported protocol version: " ++ toString version
  | invokerNotFound className => "No invoker registered for class '" ++ className ++ "'"
  | unknownMethod className method =>
    "Unknown method '" ++ method ++ "' on class '" ++ className ++ "'"
  | wrongObject className => "Invoker for '" ++ className ++ "' cannot be applied to this object"
  | objectNotFound className objectName =>
    "No synchronized object " ++ className ++ ":" ++ objectName
  | listingFailed reason => "Core failed to list channels: " ++ reason
  | connectionClosed => "Connection closed"
  | layer fault => "Transport error: " ++ fault.text
  | oversizedFrame length => "Frame too large: " ++ toString length ++ " bytes"
  | compressionFailed reason => "Compression failed: " ++ reason
  | decompressionFailed reason => "Decompression failed: " ++ reason
  | timeout => "Timeout occurred"
  | tls problem => "TLS error: " ++ problem
  | config problem => "Configuration error: " ++ problem
  | lockPoisoned lock => "Lock error: " ++ lock

/-- Errors in routing one inbound call; they cost that message and not the connection. -/
def isRouting : Error → Bool
  | invokerNotFound _ | unknownMethod .. | wrongObject _ | objectNotFound .. | wrongParameter .. => true
  | _ => false

/-- Errors by which the core turns a handshake step down. -/
def isRejection : Error → Bool
  | initRejected _ | loginRejected _ | setupRejected _ => true
  | _ => false

/-- The reason given for a rejection that came without one. -/
def unknownReason : String := "Unknown Error"

/-- The error of an object whose lock was poisoned. -/
def poisoned : Error := lockPoisoned "Synchronization primitive poisoned"

end Error
end Datastream
