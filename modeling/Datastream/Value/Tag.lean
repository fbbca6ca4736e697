/-!
# Type tags

Every value on the wire says what type it has: a plain type by its number, a named type by its
name behind the number of `userType`. Numbers and names are fixed by the cores in use.

Models `from_id` (`PlainType.ofId?`), `from_name` (`NamedType.ofName?`) and `qt_type`
(`Tag.plainType`).
-/
namespace Datastream

/-- A type known by number. -/
inductive PlainType
  | void
  | bool
  | int
  | uint
  | double
  | char16
  | map
  | list
  | string
  | stringList
  | bytes
  | date
  | time
  | dateTime
  | uuid
  | userType
  | long
  | short
  | char
  | ulong
  | ushort
  | uchar
  | float
  | boxed
  deriving DecidableEq, Repr

namespace PlainType

def all : List PlainType :=
  [void, bool, int, uint, double, char16, map, list, string, stringList, bytes, date, time, dateTime,
   uuid, userType, long, short, char, ulong, ushort, uchar, float, boxed]

def id : PlainType → Int32
  | void => 0
  | bool => 1
  | int => 2
  | uint => 3
  | double => 6
  | char16 => 7
  | map => 8
  | list => 9
  | string => 10
  | stringList => 11
  | bytes => 12
  | date => 14
  | time => 15
  | dateTime => 16
  | uuid => 30
  | userType => 127
  | long => 129
  | short => 130
  | char => 131
  | ulong => 132
  | ushort => 133
  | uchar => 134
  | float => 135
  | boxed => 138

def ofId? (id : Int32) : Option PlainType := all.find? (·.id == id)

/-- The type's name in slot signatures and error texts. -/
def name : PlainType → String
  | void => "void"
  | bool => "bool"
  | int => "int"
  | uint => "uint"
  | double => "double"
  | char16 => "QChar"
  | map => "QVariantMap"
  | list => "QVariantList"
  | string => "QString"
  | stringList => "QStringList"
  | bytes => "QByteArray"
  | date => "QDate"
  | time => "QTime"
  | dateTime => "QDateTime"
  | uuid => "QUuid"
  | userType => "UserType"
  | long => "qlonglong"
  | short => "short"
  | char => "char"
  | ulong => "qulonglong"
  | ushort => "ushort"
  | uchar => "uchar"
  | float => "float"
  | boxed => "QVariant"

/-- The type's label in descriptions of the codec; capitalised where `name` is not. -/
def label : PlainType → String
  | void => "Void"
  | bool => "Bool"
  | int => "Int"
  | uint => "UInt"
  | double => "Double"
  | long => "Long"
  | short => "Short"
  | char => "Char"
  | ulong => "ULong"
  | ushort => "UShort"
  | uchar => "UChar"
  | float => "Float"
  | type => type.name

end PlainType

/-- A map of properties with a type name of its own. -/
inductive RecordType
  | ircUser
  | ircChannel
  | identity
  | networkInfo
  | networkServer
  deriving DecidableEq, Repr

/-- A type known by name. -/
inductive NamedType
  | bufferId
  | bufferInfo
  | dccIpDetection
  | dccPortSelection
  | record (type : RecordType)
  | identityId
  | message
  | msgId
  | networkId
  | hostAddress
  | peerPtr
  deriving DecidableEq, Repr

namespace NamedType

def all : List NamedType :=
  [bufferId, bufferInfo, dccIpDetection, dccPortSelection, record .ircUser, record .ircChannel,
   record .identity, identityId, message, msgId, networkId, record .networkInfo,
   record .networkServer, hostAddress, peerPtr]

def name : NamedType → String
  | bufferId => "BufferId"
  | bufferInfo => "BufferInfo"
  | dccIpDetection => "DccConfig::IpDetectionMode"
  | dccPortSelection => "DccConfig::PortSelectionMode"
  | record .ircUser => "IrcUser"
  | record .ircChannel => "IrcChannel"
  | record .identity => "Identity"
  | record .networkInfo => "NetworkInfo"
  | record .networkServer => "Network::Server"
  | identityId => "IdentityId"
  | message => "Message"
  | msgId => "MsgId"
  | networkId => "NetworkId"
  | hostAddress => "QHostAddress"
  | peerPtr => "PeerPtr"

def ofName? (name : String) : Option NamedType := all.find? (·.name == name)

/-- The type's label in descriptions of the codec: its name, without colons. -/
def label : NamedType → String
  | dccIpDetection => "DccIpDetectionMode"
  | dccPortSelection => "DccPortSelectionMode"
  | record .networkServer => "NetworkServer"
  | type => type.name

end NamedType

/-- The type of a value. -/
inductive Tag
  | plain (type : PlainType)
  | named (type : NamedType)
  deriving DecidableEq, Repr

namespace Tag

def all : List Tag := PlainType.all.map plain ++ NamedType.all.map named

/-- The plain type that announces the tag: its own, or `userType`. -/
def plainType : Tag → PlainType
  | plain type => type
  | named _ => .userType

def name : Tag → String
  | plain type => type.name
  | named type => type.name

def label : Tag → String
  | plain type => type.label
  | named type => type.label

def ofLabel? (label : String) : Option Tag := all.find? (·.label == label)

/-- How a codec entry for the tag describes itself. -/
def describe : Tag → String
  | plain type => "Qt(" ++ type.label ++ ")"
  | named type => "Quassel(" ++ type.label ++ ")"

end Tag
end Datastream
