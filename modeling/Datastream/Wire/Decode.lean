import Datastream.Feature
import Datastream.Value.Basic
import Datastream.Wire.Primitive
import Datastream.Wire.Registry

/-!
# Decoding values

A boxed value may hold others, at most `maxDepth` levels down: the reader is given the number of
levels it may still open, and refuses to start on a value when there are none.

Models `deserialize_nested` (`decodeAt`), `deserialize`, `deserialize_payload`, `deserialize_list` and
`deserialize_map`, with `read_msg_id`, `read_buffer_info`, `read_message` and `read_host_address` for
the named types.
-/
namespace Datastream

/-- How deep a value may lie inside others. -/
def maxDepth : Nat := 64

namespace Wire

variable (f : FeatureSet)

def readMsgId : Reader MsgId := do
  if f.has .longMessageId then return ⟨← readInt64⟩ else return ⟨(← readInt32).toInt64⟩

def readBufferInfo : Reader BufferInfo := do
  let bufferId ← readInt32
  let networkId ← readInt32
  let type ← readUInt16
  let groupId ← readInt32
  let name ← readUtf8
  return ⟨⟨bufferId⟩, ⟨networkId⟩, Flags.truncate type.toBitVec, groupId, name⟩

/-- A time that has to be in the calendar's range. -/
def readMessageTime : Reader Reading := do
  let time ←
    if f.has .longTime then pure (Reading.ofMillis? (← readInt64).toInt)
    else pure (Reading.ofSeconds? (← readInt32).toInt 0)
  match time with
  | some t => return t
  | none => throw (.malformed .timestampOutOfRange)

/-- A text that a message always has; null reads as empty. -/
def readMessageText : Reader String := (·.getD "") <$> readUtf8

/-- A text that a message has with a feature, and else lacks. -/
def readOptionalText (feature : Feature) : Reader String :=
  if f.has feature then readMessageText else pure ""

def readMessage : Reader Message := do
  let id ← readMsgId f
  let time ← readMessageTime f
  let type ← readUInt32
  let flag ← readUInt8
  let buffer ← readBufferInfo
  let sender ← readMessageText
  let prefixes ← readOptionalText f .senderPrefixes
  let realName ← readOptionalText f .richMessages
  let avatarUrl ← readOptionalText f .richMessages
  let content ← readMessageText
  return { id, time, type := Flags.truncate type.toBitVec, flag := Flags.truncate flag.toBitVec,
           buffer, sender, prefixes, realName, avatarUrl, content }

def readHostAddress : Reader HostAddress := do
  let protocol ← readUInt8
  match NetworkLayer.ofByte protocol with
  | .ipv4 => return .v4 (BitVec.ofNat 32 (← Reader.number 4))
  | .ipv6 => return .v6 (BitVec.ofNat 128 (← Reader.number 16))
  | _ => throw (.malformed (.unsupportedAddress protocol))

def readUuid : Reader (BitVec 128) := do
  let high ← Reader.number 8
  let low ← Reader.number 8
  return BitVec.ofNat 128 (high * 0x10000000000000000 + low)

/-- An entry of a map; a null key reads as empty. -/
def readEntry (box : Reader Value) : Reader (String × Value) := do
  let key ← readUtf16
  let value ← box
  return (key.getD "", value)

/-- A list, its items read by `box`. -/
def readList (box : Reader Value) : Reader (List Value) := do
  Reader.times (← readCount) box

/-- A map, its values read by `box`; of equal keys the last counts. -/
def readFields (box : Reader Value) : Reader Fields := do
  Fields.ofPairs <$> Reader.times (← readCount) (readEntry box)

/-- The payload of a type, the values inside being read by `box`. -/
def readPayload (box : Reader Value) : Tag → Reader Value
  | .plain .void => return .void
  | .plain .bool => .bool <$> readBool
  | .plain .char => .char <$> readInt8
  | .plain .uchar => .uchar <$> readUInt8
  | .plain .short => .short <$> readInt16
  | .plain .ushort => .ushort <$> readUInt16
  | .plain .int => .int <$> readInt32
  | .plain .uint => .uint <$> readUInt32
  | .plain .long => .long <$> readInt64
  | .plain .ulong => .ulong <$> readUInt64
  | .plain .float => .float <$> readUInt32
  | .plain .double => .double <$> readUInt64
  | .plain .char16 => .char16 <$> readUInt16
  | .plain .string => .string <$> readUtf16
  | .plain .stringList => do return .stringList (← Reader.times (← readCount) readUtf16)
  | .plain .bytes => .bytes <$> readBytes
  | .plain .date => .date <$> readDate
  | .plain .time => .time <$> readTime
  | .plain .dateTime => .dateTime <$> readDateTime
  | .plain .uuid => .uuid <$> readUuid
  | .plain .list => .list <$> readList box
  | .plain .map => .map <$> readFields box
  | .plain .boxed => .boxed <$> box
  | .plain .userType => throw (.unknownType PlainType.userType.id)
  | .named .bufferId => (.bufferId ⟨·⟩) <$> readInt32
  | .named .networkId => (.networkId ⟨·⟩) <$> readInt32
  | .named .identityId => (.identityId ⟨·⟩) <$> readInt32
  | .named .msgId => .msgId <$> readMsgId f
  | .named .bufferInfo => .bufferInfo <$> readBufferInfo
  | .named .message => .message <$> readMessage f
  | .named .hostAddress => .hostAddress <$> readHostAddress
  | .named .peerPtr => .peerPtr <$> readUInt64
  | .named .dccIpDetection => .dccIpDetection <$> readUInt8
  | .named .dccPortSelection => .dccPortSelection <$> readUInt8
  | .named (.record type) => .record type <$> readFields box

/-- The type of a boxed value, which must be registered. -/
def readTag (r : Registry) : Reader Tag := do
  let id ← readInt32
  let _ ← readBool
  if id = PlainType.userType.id then
    match ← readTypeName with
    | none => throw (.malformed .nullTypeName)
    | some name =>
      match NamedType.ofName? name with
      | some type =>
        if r.knows (.named type) then return .named type else throw (.unknownNamedType name)
      | none => throw (.unknownNamedType name)
  else
    match PlainType.ofId? id with
    | some type => if r.knows (.plain type) then return .plain type else throw (.unknownType id)
    | none => throw (.unknownType id)

/-- A boxed value that may open so many levels, itself included. -/
def readBox (r : Registry) : (levels : Nat) → Reader Value
  | 0 => throw (.malformed .tooDeep)
  | levels + 1 => do
    let tag ← readTag r
    readPayload f (readBox r levels) tag

end Wire

namespace Value

/-- A boxed value that lies `depth` levels inside others. -/
def decodeAt (r : Registry) (f : FeatureSet) (depth : Nat) : Reader Value :=
  Wire.readBox f r (maxDepth + 1 - depth)

def decode (r : Registry) (f : FeatureSet) : Reader Value := decodeAt r f 0

/-- A value of a type that both ends know. -/
def decodePayload (r : Registry) (f : FeatureSet) (tag : Tag) : Reader Value :=
  match r.lookup tag with
  | .error error => throw error
  | .ok tag => Wire.readPayload f (decodeAt r f 1) tag

def decodeList (r : Registry) (f : FeatureSet) : Reader (List Value) := Wire.readList (decode r f)

def decodeFields (r : Registry) (f : FeatureSet) : Reader Fields := Wire.readFields (decode r f)

end Value
end Datastream
