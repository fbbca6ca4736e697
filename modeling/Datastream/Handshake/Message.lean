import Datastream.Value.Extract
import Datastream.Wire.Decode
import Datastream.Wire.Encode

/-!
# Handshake messages

The messages between negotiation and the session. Each is a set of named fields, among them its
kind; on the wire it is a list in which keys and values alternate.

Models `to_fields` and `from_map` (`ofFields`, with `required`, `optional` and `features_of`), and the
`serialize` and `deserialize` of these messages.
-/
namespace Datastream

inductive HandshakeMessage
  | clientInit (version date : String) (features : FeatureSet)
  | clientInitAck (coreFeatures : FeatureSet) (backends authenticators : List Value)
      (configured : Option Bool)
  | clientInitReject (reason : Option String)
  | clientLogin (user password : String)
  | clientLoginAck
  | clientLoginReject (reason : Option String)
  | coreSetupData (adminUser adminPassword backend : String) (setup : Fields)
      (authenticator : String) (authSetup : Fields)
  | coreSetupAck
  | coreSetupReject (reason : Option String)
  | sessionInit (identities : List Value) (buffers : List BufferInfo) (networks : List NetworkId)
  deriving Repr

namespace HandshakeMessage

def kind : HandshakeMessage → String
  | clientInit .. => "ClientInit"
  | clientInitAck .. => "ClientInitAck"
  | clientInitReject .. => "ClientInitReject"
  | clientLogin .. => "ClientLogin"
  | clientLoginAck => "ClientLoginAck"
  | clientLoginReject .. => "ClientLoginReject"
  | coreSetupData .. => "CoreSetupData"
  | coreSetupAck => "CoreSetupAck"
  | coreSetupReject .. => "CoreSetupReject"
  | sessionInit .. => "SessionInit"

/-- The fields of a feature set: the mask under `key`, which may have fields after it, and the
names. -/
def featureNames (features : FeatureSet) : String × Value :=
  ("FeatureList", .ofTexts features.names)

def reasonField : Option String → List (String × Value)
  | none => []
  | some reason => [("Error", .ofText reason)]

/-- The fields of a message in the order in which they are sent, the kind first. -/
def toFields (m : HandshakeMessage) : List (String × Value) :=
  ("MsgType", .ofText m.kind) ::
  match m with
  | clientInit version date features =>
    [("ClientVersion", .ofText version), ("ClientDate", .ofText date),
     ("Features", .uint features.legacy), featureNames features]
  | clientInitAck coreFeatures backends authenticators configured =>
    [("CoreFeatures", .uint coreFeatures.legacy), ("StorageBackends", .list backends),
     ("Authenticators", .list authenticators)] ++
    (configured.map fun b => ("Configured", Value.bool b)).toList ++ [featureNames coreFeatures]
  | clientInitReject reason | clientLoginReject reason | coreSetupReject reason =>
    reasonField reason
  | clientLogin user password => [("User", .ofText user), ("Password", .ofText password)]
  | clientLoginAck | coreSetupAck => []
  | coreSetupData adminUser adminPassword backend setup authenticator authSetup =>
    [("SetupData", .map (Fields.ofPairs
      [("AdminUser", .ofText adminUser), ("AdminPasswd", .ofText adminPassword),
       ("Backend", .ofText backend), ("ConnectionProperties", .map setup),
       ("Authenticator", .ofText authenticator), ("AuthProperties", .map authSetup)]))]
  | sessionInit identities buffers networks =>
    [("SessionState", .map (Fields.ofPairs
      [("Identities", .list identities), ("BufferInfos", .list (buffers.map .bufferInfo)),
       ("NetworkIds", .list (networks.map .networkId))]))]

section Parsing

variable {α : Type} (read : Value → Option α) (fields : Fields) (key : String)

/-- A field, if it is there and has the right type. -/
def field? : Option α := (fields.get? key).bind read

/-- A field that must be there with the right type. -/
def required : Except Error α :=
  match field? read fields key with
  | some x => .ok x
  | none => .error (.malformed (.fieldMissing key))

/-- A list that is empty when its field is absent, but must have the right type when it is there. -/
def optionalList : Except Error (List α) :=
  match fields.get? key with
  | none => .ok []
  | some v =>
    match v.listOf? read with
    | some items => .ok items
    | none => .error (.malformed (.fieldMistyped key))

end Parsing

/-- The features that the mask under `key` and the list of names say; what is mistyped says
nothing. -/
def featuresOf (fields : Fields) (key : String) : FeatureSet :=
  FeatureSet.build ((field? Value.uint? fields key).getD 0)
    ((field? (Value.listOf? Value.text?) fields "FeatureList").getD [])

/-- The message that a set of fields makes up. -/
def ofFields (fields : Fields) : Except Error HandshakeMessage := do
  match field? Value.text? fields "MsgType" with
  | none => throw (.malformed .noMessageType)
  | some kind =>
    let reason := field? Value.text? fields "Error"
    if kind = "ClientInit" then
      let version ← required Value.text? fields "ClientVersion"
      return .clientInit version ((field? Value.text? fields "ClientDate").getD "")
        (featuresOf fields "Features")
    else if kind = "ClientInitAck" then
      return .clientInitAck (featuresOf fields "CoreFeatures")
        ((field? Value.list? fields "StorageBackends").getD [])
        ((field? Value.list? fields "Authenticators").getD [])
        (field? Value.bool? fields "Configured")
    else if kind = "ClientInitReject" then return .clientInitReject reason
    else if kind = "ClientLogin" then
      let user ← required Value.text? fields "User"
      let password ← required Value.text? fields "Password"
      return .clientLogin user password
    else if kind = "ClientLoginAck" then return .clientLoginAck
    else if kind = "ClientLoginReject" then return .clientLoginReject reason
    else if kind = "CoreSetupData" then
      let data ← required Value.fields? fields "SetupData"
      let adminUser ← required Value.text? data "AdminUser"
      let adminPassword ← required Value.text? data "AdminPasswd"
      return .coreSetupData adminUser adminPassword
        ((field? Value.text? data "Backend").getD "")
        ((field? Value.fields? data "ConnectionProperties").getD [])
        ((field? Value.text? data "Authenticator").getD "")
        ((field? Value.fields? data "AuthProperties").getD [])
    else if kind = "CoreSetupAck" then return .coreSetupAck
    else if kind = "CoreSetupReject" then return .coreSetupReject reason
    else if kind = "SessionInit" then
      let state ← required Value.fields? fields "SessionState"
      let identities ← optionalList some state "Identities"
      let buffers ← optionalList Value.bufferInfo? state "BufferInfos"
      let networks ← optionalList Value.networkId? state "NetworkIds"
      return .sessionInit identities buffers networks
    else throw (.unexpectedMessage kind)

/-- The key that a value spells; keys are byte arrays or strings. -/
def key? (v : Value) : Option String := v.name?.or v.text?

/-- The fields that alternating keys and values set, later ones replacing earlier ones. -/
def pairUp : List Value → Fields → Except Error Fields
  | key :: value :: rest, fields =>
    match key? key with
    | some k => pairUp rest (fields.insert k value)
    | none => .error (.malformed (.keyNotText key.tag.name))
  | _, fields => .ok fields

/-- The message that a list of alternating keys and values makes up. -/
def ofList (items : List Value) : Except Error HandshakeMessage :=
  if items.length % 2 = 1 then .error (.malformed .keyWithoutValue)
  else do ofFields (← pairUp items [])

/-- Keys as byte arrays, each before its value. -/
def toList (m : HandshakeMessage) : List Value :=
  m.toFields.flatMap fun entry => [.ofName entry.1, entry.2]

/-- The payload of the frame that carries a message. -/
def encode (r : Registry) (f : FeatureSet) (m : HandshakeMessage) : Except Error Bytes :=
  (Value.encodeList r f m.toList).toExcept

/-- The message that the payload of a frame carries; bytes after it are ignored. -/
def decode (r : Registry) (f : FeatureSet) (payload : Bytes) : Except Error HandshakeMessage :=
  match Value.decodeList r f payload with
  | .error error _ => .error error
  | .ok items _ => ofList items

end HandshakeMessage
end Datastream
