/-!
# Features

Optional abilities that client and core agree on. A core lists its features twice: as a 16-bit mask,
which only the oldest features are in, and as a list of names, which may hold names that this
client does not know. A `FeatureSet` is what both lists together say.

Models `build`, `from_features`, `feature_list` (`names`), `legacy_features`, `has_feature` and
`intersect`.
-/
namespace Datastream

/-- An ability that both ends may have. -/
inductive Feature
  | synchronizedMarkerLine
  | saslAuthentication
  | saslExternal
  | hideInactiveNetworks
  | passwordChange
  | capNegotiation
  | verifyServerSsl
  | customRateLimits
  | dccFileTransfer
  | awayFormatTimestamp
  | authenticators
  | bufferActivitySync
  | coreSideHighlights
  | senderPrefixes
  | remoteDisconnect
  | extendedFeatures
  | longTime
  | richMessages
  | backlogFilterType
  | ecdsaCertfpKeys
  | longMessageId
  | syncedCoreInfo
  deriving DecidableEq, Repr

namespace Feature

/-- Every feature, in the order in which they are listed. -/
def all : List Feature :=
  [synchronizedMarkerLine, saslAuthentication, saslExternal, hideInactiveNetworks, passwordChange,
   capNegotiation, verifyServerSsl, customRateLimits, dccFileTransfer, awayFormatTimestamp,
   authenticators, bufferActivitySync, coreSideHighlights, senderPrefixes, remoteDisconnect,
   extendedFeatures, longTime, richMessages, backlogFilterType, ecdsaCertfpKeys, longMessageId,
   syncedCoreInfo]

def name : Feature → String
  | synchronizedMarkerLine => "SynchronizedMarkerLine"
  | saslAuthentication => "SaslAuthentication"
  | saslExternal => "SaslExternal"
  | hideInactiveNetworks => "HideInactiveNetworks"
  | passwordChange => "PasswordChange"
  | capNegotiation => "CapNegotiation"
  | verifyServerSsl => "VerifyServerSSL"
  | customRateLimits => "CustomRateLimits"
  | dccFileTransfer => "DccFileTransfer"
  | awayFormatTimestamp => "AwayFormatTimestamp"
  | authenticators => "Authenticators"
  | bufferActivitySync => "BufferActivitySync"
  | coreSideHighlights => "CoreSideHighlights"
  | senderPrefixes => "SenderPrefixes"
  | remoteDisconnect => "RemoteDisconnect"
  | extendedFeatures => "ExtendedFeatures"
  | longTime => "LongTime"
  | richMessages => "RichMessages"
  | backlogFilterType => "BacklogFilterType"
  | ecdsaCertfpKeys => "EcdsaCertfpKeys"
  | longMessageId => "LongMessageId"
  | syncedCoreInfo => "SyncedCoreInfo"

/-- The place of a feature in the list, from zero. -/
def index (f : Feature) : Nat := all.idxOf f

def ofName? (name : String) : Option Feature := all.find? (·.name == name)

/-- The bit of a feature in the mask; only the first sixteen have one. -/
def legacyBit? (f : Feature) : Option UInt32 :=
  if f.index < 16 then some (1 <<< UInt32.ofNat f.index) else none

end Feature

/-- The features of one end: the known ones, in order, and the other names, sorted. -/
structure FeatureSet where
  known : List Feature
  additional : List String
  deriving DecidableEq, Repr

namespace FeatureSet

/-- Adds a name to a sorted list of names, once. -/
def insertName (name : String) : List String → List String
  | [] => [name]
  | other :: rest =>
    if name < other then name :: other :: rest
    else if name = other then other :: rest
    else other :: insertName name rest

/-- What a mask and a list of names say together. -/
def build (legacy : UInt32) (names : List String) : FeatureSet where
  known := Feature.all.filter fun f =>
    f.legacyBit?.any (fun bit => legacy &&& bit != 0) || names.contains f.name
  additional := (names.filter fun name => (Feature.ofName? name).isNone).foldl
    (fun sorted name => insertName name sorted) []

def ofFeatures (features : List Feature) : FeatureSet :=
  ⟨Feature.all.filter features.contains, []⟩

def all : FeatureSet := ⟨Feature.all, []⟩
def none : FeatureSet := ⟨[], []⟩

def has (s : FeatureSet) (f : Feature) : Bool := s.known.contains f

def legacy (s : FeatureSet) : UInt32 :=
  s.known.foldl (fun mask f => mask ||| f.legacyBit?.getD 0) 0

/-- The names of the known features, then the additional names. -/
def names (s : FeatureSet) : List String := s.known.map Feature.name ++ s.additional

/-- The known features of both; neither end can act on an additional name. -/
def intersect (s t : FeatureSet) : FeatureSet := ⟨s.known.filter t.known.contains, []⟩

end FeatureSet
end Datastream
