import Datastream.Value.Form
import Datastream.Wire.Primitive

/-!
# Primitives by name

The primitive readers and writers under the names of their kinds, with plain data on their other
side.
-/
namespace Datastream.Wire

open Datum

def readerOf? (kind : String) : Option (Reader Datum) :=
  let via {α : Type} [ToDatum α] (r : Reader α) : Option (Reader Datum) := some (toDatum <$> r)
  match kind with
  | "u8" => via readUInt8
  | "i8" => via readInt8
  | "u16" => via readUInt16
  | "i16" => via readInt16
  | "u32" => via readUInt32
  | "i32" => via readInt32
  | "u64" => via readUInt64
  | "i64" => via readInt64
  | "f32" => some ((digits 8 ·.toNat) <$> readUInt32)
  | "f64" => some ((digits 16 ·.toNat) <$> readUInt64)
  | "bool" => via readBool
  | "count" => via readCount
  | "utf16" => via readUtf16
  | "utf8" => via readUtf8
  | "ascii" => via readTypeName
  | "bytes" => via readBytes
  | "date" => via readDate
  | "time" => via readTime
  | "datetime" => via readDateTime
  | _ => none

/-- What a value is written as, by the name of its kind. -/
def outputOf? (kind : String) (d : Datum) : Option Output :=
  match kind with
  | "bool" => (.write ∘ bool) <$> ofDatum? d
  | "count" => count <$> ofDatum? d
  | "utf16" => utf16 <$> ofDatum? d
  | "utf8" => utf8 <$> ofDatum? d
  | "ascii" => typeName <$> ofDatum? d
  | "bytes" => bytes <$> ofDatum? d
  | "date" => checkedDate <$> ofDatum? d
  | "time" => (.write ∘ time) <$> ofDatum? d
  | "datetime" => checkedDateTime <$> ofDatum? d
  | _ => none

end Datastream.Wire
