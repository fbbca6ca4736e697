import Datastream.Feature
import Datastream.Value.Basic
import Datastream.Wire.Primitive
import Datastream.Wire.Registry

/-!
# Encoding values

A boxed value is its type, a zero byte, the type's name if it has one, and the payload. The payload
is written by the entry that is registered under the value's type (`qt_serializers`,
`quassel_serializers`), and an entry refuses values of any other type (`mismatch`). How wide message
ids and times are, and which texts a message carries, depends on the features in force
(`write_msg_id`, `write_message`). `Value.encode`, `encodePayload`, `encodeList` and `encodeFields`
follow `serialize`, `serialize_payload`, `serialize_list` and `serialize_map`.
-/
namespace Datastream

namespace Wire

variable (r : Registry) (f : FeatureSet)

/-- A message id: 64 bits with long ids, else the low 32. -/
def msgId (id : MsgId) : Bytes :=
  if f.has .longMessageId then int64 id.id else int32 id.id.toInt32

/-- Seconds, or milliseconds with long times; seconds have to fit 32 bits. -/
def messageTime (time : Reading) : Output :=
  if f.has .longTime then .write (int64 (Int64.ofInt time.millis))
  else if -2147483648 ≤ time.seconds ∧ time.seconds ≤ 2147483647 then
    .write (int32 (Int32.ofInt time.seconds))
  else .fail (.malformed .timestampOutOfRange)

def bufferInfo (info : BufferInfo) : Output :=
  .write (int32 info.bufferId.id ++ int32 info.networkId.id ++ Bytes.ofNat 2 info.type.toNat ++
    int32 info.groupId) ++ utf8 info.name

def message (m : Message) : Output :=
  .write (msgId f m.id) ++ messageTime f m.time ++
    .write (Bytes.ofNat 4 m.type.toNat ++ Bytes.ofNat 1 m.flag.toNat) ++
    bufferInfo m.buffer ++ utf8 (some m.sender) ++
    (if f.has .senderPrefixes then utf8 (some m.prefixes) else .empty) ++
    (if f.has .richMessages then utf8 (some m.realName) ++ utf8 (some m.avatarUrl) else .empty) ++
    utf8 (some m.content)

def hostAddress : HostAddress → Bytes
  | .v4 bits => 0 :: Bytes.ofNat 4 bits.toNat
  | .v6 bits => 1 :: Bytes.ofNat 16 bits.toNat

def stringList : List (Option String) → Output
  | [] => .empty
  | s :: rest => utf16 s ++ stringList rest

def mismatch (expected : Tag) (actual : Value) : Output :=
  .fail (.typeMismatch expected.name actual.tag.name)

/-- Runs the entry that is registered under a type. -/
def withEntry (tag : Tag) (run : Tag → Output) : Output :=
  match r.lookup tag with
  | .error error => .fail error
  | .ok entry => run entry

/-- What stands before the payload of a boxed value. -/
def header (tag : Tag) : Output :=
  .write (int32 tag.plainType.id ++ bool false) ++
    match tag with
    | .plain _ => .empty
    | .named type => typeName type.name

mutual

/-- What the entry of a type writes of a value: its payload, if it is of that type. -/
def payloadAs (entry : Tag) (v : Value) : Output :=
  match entry, v with
  | .plain .void, .void => .empty
  | .plain .bool, .bool b => .write (bool b)
  | .plain .char, .char n => .write (int8 n)
  | .plain .uchar, .uchar n => .write [n]
  | .plain .short, .short n => .write (int16 n)
  | .plain .ushort, .ushort n => .write (Bytes.u16 n)
  | .plain .int, .int n => .write (int32 n)
  | .plain .uint, .uint n => .write (Bytes.u32 n)
  | .plain .long, .long n => .write (int64 n)
  | .plain .ulong, .ulong n => .write (Bytes.u64 n)
  | .plain .float, .float bits => .write (Bytes.u32 bits)
  | .plain .double, .double bits => .write (Bytes.u64 bits)
  | .plain .char16, .char16 unit => .write (Bytes.u16 unit)
  | .plain .string, .string s => utf16 s
  | .plain .stringList, .stringList items => count items.length ++ stringList items
  | .plain .bytes, .bytes b => bytes b
  | .plain .date, .date d => checkedDate d
  | .plain .time, .time t => .write (time t)
  | .plain .dateTime, .dateTime t => checkedDateTime t
  | .plain .uuid, .uuid bits => .write (Bytes.ofNat 16 bits.toNat)
  | .plain .list, .list items => count items.length ++ boxes items
  | .plain .map, .map fields => count fields.length ++ entries fields
  | .plain .boxed, .boxed inner =>
    withEntry r inner.tag fun entry => header entry ++ payloadAs entry inner
  | .named .bufferId, .bufferId id => .write (int32 id.id)
  | .named .networkId, .networkId id => .write (int32 id.id)
  | .named .identityId, .identityId id => .write (int32 id.id)
  | .named .msgId, .msgId id => .write (msgId f id)
  | .named .bufferInfo, .bufferInfo info => bufferInfo info
  | .named .message, .message m => message f m
  | .named .hostAddress, .hostAddress address => .write (hostAddress address)
  | .named .peerPtr, .peerPtr n => .write (Bytes.u64 n)
  | .named .dccIpDetection, .dccIpDetection mode => .write [mode]
  | .named .dccPortSelection, .dccPortSelection mode => .write [mode]
  | .named (.record type), .record own fields =>
    if own = type then count fields.length ++ entries fields
    else mismatch (.named (.record type)) (.record own fields)
  | entry, v => mismatch entry v

/-- Boxed values, one after the other. -/
def boxes : List Value → Output
  | [] => .empty
  | v :: rest => (withEntry r v.tag fun entry => header entry ++ payloadAs entry v) ++ boxes rest

/-- Keys and boxed values in turn. -/
def entries : List (String × Value) → Output
  | [] => .empty
  | (key, v) :: rest =>
    utf16 (some key) ++ (withEntry r v.tag fun entry => header entry ++ payloadAs entry v) ++
      entries rest

end

end Wire

namespace Value

def encode (r : Registry) (f : FeatureSet) (v : Value) : Output :=
  Wire.withEntry r v.tag fun entry => Wire.header entry ++ Wire.payloadAs r f entry v

/-- What the entry registered under some type writes of a value of any type. -/
def encodeAs (r : Registry) (f : FeatureSet) (tag : Tag) (v : Value) : Output :=
  Wire.withEntry r tag fun entry => Wire.payloadAs r f entry v

/-- The encoding of a value whose type both ends know; the type must be registered all the same. -/
def encodePayload (r : Registry) (f : FeatureSet) (v : Value) : Output := encodeAs r f v.tag v

/-- A list of values: their number, and each of them boxed. -/
def encodeList (r : Registry) (f : FeatureSet) (items : List Value) : Output :=
  Wire.count items.length ++ Wire.boxes r f items

/-- A map: the number of entries, and each key with its boxed value. -/
def encodeFields (r : Registry) (f : FeatureSet) (fields : Fields) : Output :=
  Wire.count fields.length ++ Wire.entries r f fields

end Value
end Datastream
