import Datastream.Datum
import Datastream.Feature
import Datastream.Value.Basic

/-!
# Values as plain data

A value is a record of one field, named by the label of its type. Floating-point numbers and other
bit patterns are hexadecimal digits; a map is a list of keys and values in turn.
-/
namespace Datastream

open Datum

instance : ToDatum Date := ⟨fun d => items [whole d.year, whole d.month, whole d.day]⟩
instance : OfDatum Date := ⟨fun d => do
  let (y, m, d) : Int × Nat × Nat ← ofDatum? d
  Date.of? y m d⟩

instance : ToDatum TimeOfDay := ⟨fun t => items [whole t.seconds, whole t.nanos]⟩
instance : OfDatum TimeOfDay := ⟨fun d => do
  let (s, n) : Nat × Nat ← ofDatum? d
  TimeOfDay.of? s n⟩

instance : ToDatum DateTime := ⟨fun t =>
  record ([("date", toDatum t.reading.date), ("time", toDatum t.reading.time)] ++ match t with
    | .unanchored _ spec => [("spec", toDatum spec.toInt8)]
    | .utc _ => [("spec", text "utc")]
    | .offset value => [("spec", text "offset"), ("offset", toDatum value.offset.seconds)])⟩

instance : OfDatum DateTime := ⟨fun d => do
  let reading : Reading := ⟨← d.read "date", ← d.read "time"⟩
  match d.field "spec" with
  | text "utc" => return .utc reading
  | text _ => .offset <$> OffsetReading.of? reading (← UtcOffset.of? (← d.read "offset"))
  | spec => return .unanchored reading (TimeSpec.ofInt8 (← ofDatum? spec))⟩

instance {width : Nat} {mask : BitVec width} : ToDatum (Flags mask) := ⟨fun f => whole f.toNat⟩
instance {width : Nat} {mask : BitVec width} : OfDatum (Flags mask) :=
  ⟨fun d => Flags.ofNat <$> ofDatum? d⟩

instance : ToDatum BufferId := ⟨fun b => toDatum b.id⟩
instance : ToDatum NetworkId := ⟨fun n => toDatum n.id⟩
instance : ToDatum IdentityId := ⟨fun i => toDatum i.id⟩
instance : ToDatum MsgId := ⟨fun m => toDatum m.id⟩
instance : OfDatum BufferId := ⟨fun d => BufferId.mk <$> ofDatum? d⟩
instance : OfDatum NetworkId := ⟨fun d => NetworkId.mk <$> ofDatum? d⟩
instance : OfDatum IdentityId := ⟨fun d => IdentityId.mk <$> ofDatum? d⟩
instance : OfDatum MsgId := ⟨fun d => MsgId.mk <$> ofDatum? d⟩

instance : ToDatum BufferInfo := ⟨fun b => record
  [("buffer_id", toDatum b.bufferId), ("network_id", toDatum b.networkId), ("type", toDatum b.type),
   ("group_id", toDatum b.groupId), ("name", toDatum b.name)]⟩

instance : OfDatum BufferInfo := ⟨fun d => do
  return ⟨← d.read "buffer_id", ← d.read "network_id", ← d.read "type", ← d.read "group_id",
    ← d.read "name"⟩⟩

instance : ToDatum Message := ⟨fun m => record
  [("id", toDatum m.id), ("time_ms", decimal m.time.millis), ("type", toDatum m.type),
   ("flag", toDatum m.flag), ("buffer", toDatum m.buffer), ("sender", toDatum m.sender),
   ("prefixes", toDatum m.prefixes), ("real_name", toDatum m.realName),
   ("avatar_url", toDatum m.avatarUrl), ("content", toDatum m.content)]⟩

instance : OfDatum Message := ⟨fun d => do
  let time ← Reading.ofMillis? (← d.read "time_ms")
  return ⟨← d.read "id", time, ← d.read "type", ← d.read "flag", ← d.read "buffer",
    ← d.read "sender", ← d.read "prefixes", ← d.read "real_name", ← d.read "avatar_url",
    ← d.read "content"⟩⟩

instance : OfDatum Tag := ⟨fun d => d.text?.bind Tag.ofLabel?⟩

/-- A set of features: none, all, a list of names, or names beside a mask. -/
instance : OfDatum FeatureSet := ⟨fun
  | null | text "none" => some .none
  | text _ => some .all
  | items names => FeatureSet.build 0 <$> ofDatum? (items names)
  | d => do return .build (← d.read "legacy") (← d.read "names")⟩

instance : ToDatum FeatureSet :=
  ⟨fun f => record [("list", toDatum f.names), ("legacy", toDatum f.legacy)]⟩

namespace Value

def bits? (d : Datum) : Option Nat := Bytes.toNat <$> d.hex?

/-- The content of a value that holds no others. -/
def leaf? (tag : Tag) (d : Datum) : Option Value :=
  match tag with
  | .plain .void => some .void
  | .plain .bool => .bool <$> ofDatum? d
  | .plain .char => .char <$> ofDatum? d
  | .plain .uchar => .uchar <$> ofDatum? d
  | .plain .short => .short <$> ofDatum? d
  | .plain .ushort => .ushort <$> ofDatum? d
  | .plain .int => .int <$> ofDatum? d
  | .plain .uint => .uint <$> ofDatum? d
  | .plain .long => .long <$> ofDatum? d
  | .plain .ulong => .ulong <$> ofDatum? d
  | .plain .float => (fun n => .float (.ofNat n)) <$> bits? d
  | .plain .double => (fun n => .double (.ofNat n)) <$> bits? d
  | .plain .char16 => .char16 <$> ofDatum? d
  | .plain .string => .string <$> ofDatum? d
  | .plain .stringList => .stringList <$> ofDatum? d
  | .plain .bytes => .bytes <$> ofDatum? d
  | .plain .date => .date <$> ofDatum? d
  | .plain .time => .time <$> ofDatum? d
  | .plain .dateTime => .dateTime <$> ofDatum? d
  | .plain .uuid => (fun n => .uuid (.ofNat 128 n)) <$> bits? d
  | .named .bufferId => .bufferId <$> ofDatum? d
  | .named .identityId => .identityId <$> ofDatum? d
  | .named .networkId => .networkId <$> ofDatum? d
  | .named .msgId => .msgId <$> ofDatum? d
  | .named .bufferInfo => .bufferInfo <$> ofDatum? d
  | .named .message => .message <$> ofDatum? d
  | .named .hostAddress => do
    let b ← d.hex?
    return .hostAddress
      (if b.length = 4 then .v4 (.ofNat 32 b.toNat) else .v6 (.ofNat 128 b.toNat))
  | .named .peerPtr => .peerPtr <$> ofDatum? d
  | .named .dccIpDetection => .dccIpDetection <$> ofDatum? d
  | .named .dccPortSelection => .dccPortSelection <$> ofDatum? d
  | _ => none

mutual

def ofForm? : Datum → Option Value
  | .record [(label, content)] =>
    match Tag.ofLabel? label, content with
    | some (.plain .list), .items l => .list <$> itemsOfForm? l
    | some (.plain .map), .items l => (fun l => .map (Fields.ofPairs l)) <$> entriesOfForm? l
    | some (.named (.record type)), .items l =>
      (fun l => .record type (Fields.ofPairs l)) <$> entriesOfForm? l
    | some (.plain .boxed), inner => .boxed <$> ofForm? inner
    | some tag, content => leaf? tag content
    | none, _ => none
  | _ => none

def itemsOfForm? : List Datum → Option (List Value)
  | [] => some []
  | d :: rest => do return (← ofForm? d) :: (← itemsOfForm? rest)

def entriesOfForm? : List Datum → Option (List (String × Value))
  | [] => some []
  | .items [.text key, d] :: rest => do return (key, ← ofForm? d) :: (← entriesOfForm? rest)
  | _ => none

end

mutual

/-- A value as data, without the label of its type. -/
def content : Value → Datum
  | .void => .null
  | .bool b => toDatum b
  | .char n => toDatum n
  | .uchar n => toDatum n
  | .short n => toDatum n
  | .ushort n => toDatum n
  | .int n => toDatum n
  | .uint n => toDatum n
  | .long n => toDatum n
  | .ulong n => toDatum n
  | .float bits => digits 8 bits.toNat
  | .double bits => digits 16 bits.toNat
  | .char16 unit => toDatum unit
  | .string s => toDatum s
  | .stringList l => toDatum l
  | .bytes b => toDatum b
  | .date d => toDatum d
  | .time t => toDatum t
  | .dateTime t => toDatum t
  | .uuid bits => digits 32 bits.toNat
  | .list l => .items (contents l)
  | .map fields => .items (entryContents fields)
  | .boxed inner => .record [(inner.tag.label, content inner)]
  | .bufferId id => toDatum id
  | .bufferInfo info => toDatum info
  | .message m => toDatum m
  | .identityId id => toDatum id
  | .networkId id => toDatum id
  | .msgId id => toDatum id
  | .hostAddress (.v4 bits) => digits 8 bits.toNat
  | .hostAddress (.v6 bits) => digits 32 bits.toNat
  | .peerPtr n => toDatum n
  | .dccIpDetection mode => toDatum mode
  | .dccPortSelection mode => toDatum mode
  | .record _ fields => .items (entryContents fields)

/-- Values as data, each with the label of its type. -/
def contents : List Value → List Datum
  | [] => []
  | v :: rest => .record [(v.tag.label, content v)] :: contents rest

def entryContents : List (String × Value) → List Datum
  | [] => []
  | (key, v) :: rest => .items [.text key, .record [(v.tag.label, content v)]] :: entryContents rest

end

def toForm (v : Value) : Datum := .record [(v.tag.label, content v)]

end Value

instance : ToDatum Value := ⟨Value.toForm⟩
instance : OfDatum Value := ⟨Value.ofForm?⟩

/-- A map that is a field of a record; of equal keys the last counts. -/
def Datum.readFields (d : Datum) (name : String) : Option Fields := Fields.ofPairs <$> d.read name

end Datastream
