import Datastream.Value.Extract
import Datastream.Value.Form

/-!
# Extraction by name

What is taken out of a value, under the name of the type that it is taken out as. A type in brackets
is a list of that type.

Models `get`, with the type as a text.
-/
namespace Datastream.Value

open Datum

/-- What is taken out as a type that is no list. -/
def itemOf? (type : String) : Option (Value → Option Datum) :=
  let via {α : Type} [ToDatum α] (f : Value → Option α) : Option (Value → Option Datum) :=
    some fun v => toDatum <$> f v
  match type with
  | "bool" => via Value.bool?
  | "i8" => via Value.char?
  | "u8" => via Value.uchar?
  | "i16" => via Value.short?
  | "u16" => via Value.ushort?
  | "i32" => via Value.int?
  | "u32" => via Value.uint?
  | "i64" => via Value.long?
  | "u64" => via Value.ulong?
  | "f32" => via fun v => (digits 8 ·.toNat) <$> v.float?
  | "f64" => via fun v => (digits 16 ·.toNat) <$> v.double?
  | "date" => via Value.date?
  | "time" => via Value.time?
  | "datetime" => via fun v => v.dateTime?.map fun (t : DateTime) =>
    Datum.record [("time_spec", toDatum t.spec.toInt8), ("value", toDatum t),
      ("utc_ms", toDatum (decimal <$> t.utcMillis?))]
  | "uuid" => via fun v => (digits 32 ·.toNat) <$> v.uuid?
  | "BufferId" => via Value.bufferId?
  | "IdentityId" => via Value.identityId?
  | "NetworkId" => via Value.networkId?
  | "MsgId" => via Value.msgId?
  | "ip" => via fun v => HostAddress.text <$> v.hostAddress?
  | "value" => via some
  | "opt_string" => via Value.nullableText?
  | "string" => via Value.text?
  | "bytes" => via Value.bytes?
  | "map" => via Value.fields?
  | "BufferInfo" => via Value.bufferInfo?
  | "Message" => via Value.message?
  | _ => none

def listsOf (item : Value → Option Datum) : (depth : Nat) → Value → Option Datum
  | 0 => item
  | depth + 1 => fun v => toDatum <$> Value.listOf? (listsOf item depth) v

def extractorOf? (type : String) : Option (Value → Option Datum) :=
  let opened := type.toList.takeWhile (· = '[')
  let name := (type.toList.drop opened.length).takeWhile (· ≠ ']')
  (itemOf? (String.ofList name)).map fun item => listsOf item opened.length

end Datastream.Value
