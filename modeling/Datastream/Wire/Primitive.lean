import Datastream.Calendar.DateTime
import Datastream.Text.Utf16
import Datastream.Text.Utf8
import Datastream.Value.Record
import Datastream.Wire.Output
import Datastream.Wire.Reader

/-!
# Primitive encodings

The payloads that all types are built from: big-endian words, counted texts and byte arrays in
which a length of -1 stands for null, Julian days, milliseconds of the day, date-times. Each writer
stands before its reader.

Models the functions `write_utf16`, `read_utf16` and so on for each kind of payload; `count` is both
`write_length` and `write_count`, and `typeName` is `write_ascii`.
-/
namespace Datastream.Wire

open Reader (number)

/-- The largest length or count that fits its 32-bit field. -/
def maxLength : Nat := 2147483647

/-- Words of one to eight bytes. -/
def readUInt8 : Reader UInt8 := UInt8.ofNat <$> number 1
def readUInt16 : Reader UInt16 := UInt16.ofNat <$> number 2
def readUInt32 : Reader UInt32 := UInt32.ofNat <$> number 4
def readUInt64 : Reader UInt64 := UInt64.ofNat <$> number 8
def readInt8 : Reader Int8 := UInt8.toInt8 <$> readUInt8
def readInt16 : Reader Int16 := UInt16.toInt16 <$> readUInt16
def readInt32 : Reader Int32 := UInt32.toInt32 <$> readUInt32
def readInt64 : Reader Int64 := UInt64.toInt64 <$> readUInt64

def int8 (n : Int8) : Bytes := [n.toUInt8]
def int16 (n : Int16) : Bytes := Bytes.u16 n.toUInt16
def int32 (n : Int32) : Bytes := Bytes.u32 n.toUInt32
def int64 (n : Int64) : Bytes := Bytes.u64 n.toUInt64

/-- A byte, zero or one. -/
def bool (b : Bool) : Bytes := [if b then 1 else 0]

/-- Any byte but zero is true. -/
def readBool : Reader Bool := (· != 0) <$> readUInt8

def count (n : Nat) : Output :=
  if n ≤ maxLength then .write (Bytes.ofNat 4 n) else .fail (.malformed (.lengthTooLarge n))

/-- The count of a list or map. -/
def readCount : Reader Nat := do
  let n := (← readInt32).toInt
  if n < 0 then throw (.malformed (.negativeCount n)) else return n.toNat

/-- The length of what follows, which must all be there; -1 stands for null. -/
def readLength : Reader (Option Nat) := do
  let n := (← readInt32).toInt
  if n = -1 then return none
  else if n < 0 then throw (.malformed (.negativeLength n))
  else
    Reader.ensure n.toNat
    return some n.toNat

/-- The length that stands for null. -/
def null : Bytes := int32 (-1)

def bytes : Option Bytes → Output
  | none => .write null
  | some b => count b.length ++ .write b

def readBytes : Reader (Option Bytes) := do
  match ← readLength with
  | none => return none
  | some n => some <$> Reader.take n

def utf8 (s : Option String) : Output := bytes (s.map Utf8.encode)

def readUtf8 : Reader (Option String) := Option.map Utf8.decode <$> readBytes

/-- A text in UTF-16, its length counted in bytes. -/
def utf16 : Option String → Output
  | none => .write null
  | some s =>
    let units := Utf16.encode s
    count (units.length * 2) ++ .write (units.flatMap Bytes.u16)

/-- The 16-bit words that an even number of bytes spells. -/
def units : Bytes → List UInt16
  | a :: b :: rest => UInt16.ofNat (a.toNat * 256 + b.toNat) :: units rest
  | _ => []

def readUtf16 : Reader (Option String) := do
  match ← readLength with
  | none => return none
  | some n =>
    if n % 2 = 1 then throw (.malformed (.oddUtf16Length n))
    else return some (Utf16.decode (units (← Reader.take n)))

/-- The name of a type: ASCII, closed by a zero byte that its length counts. -/
def typeName (name : String) : Output :=
  if name.toList.all (·.toNat < 128) then
    let text := Utf8.encode name
    count (text.length + 1) ++ .write (text ++ [0])
  else .fail (.malformed (.nonAsciiName name))

/-- Takes one zero byte off the end, if there is one. -/
def dropTerminator (b : Bytes) : Bytes := if b.getLast? = some 0 then b.dropLast else b

def readTypeName : Reader (Option String) :=
  Option.map (fun b => Utf8.decode (dropTerminator b)) <$> readBytes

/-- A date as its Julian day. -/
def date (d : Date) : Bytes := int32 (Int32.ofInt d.julianDay)

/-- A date as its Julian day, which has to fit 32 bits. -/
def checkedDate (d : Date) : Output :=
  if -2147483648 ≤ d.julianDay ∧ d.julianDay ≤ 2147483647 then .write (date d)
  else .fail (.malformed (.dateOutOfRange d.text))

def readDate : Reader Date := do
  let day := (← readInt32).toInt
  match Date.ofJulianDay? day with
  | some d => return d
  | none => throw (.malformed (.dayOutOfRange day))

/-- A time as milliseconds since midnight. -/
def time (t : TimeOfDay) : Bytes := Bytes.ofNat 4 t.millis

def readTime : Reader TimeOfDay := do
  let millis := (← readInt32).toInt
  match if millis < 0 then none else TimeOfDay.ofMillis? millis.toNat with
  | some t => return t
  | none => throw (.malformed (.timeOutOfRange millis))

/-- A date-time: its local reading, its spec, and the offset if it has one. -/
def dateTime (t : DateTime) : Bytes :=
  date t.reading.date ++ time t.reading.time ++ int8 t.spec.toInt8 ++
    match t with
    | .offset value => int32 value.offset.seconds
    | _ => []

/-- A date-time whose date has to fit its field. -/
def checkedDateTime (t : DateTime) : Output :=
  checkedDate t.reading.date ++
    .write (time t.reading.time ++ int8 t.spec.toInt8 ++
      match t with
      | .offset value => int32 value.offset.seconds
      | _ => [])

def readDateTime : Reader DateTime := do
  let date ← readDate
  let time ← readTime
  let reading : Reading := ⟨date, time⟩
  match TimeSpec.ofInt8 (← readInt8) with
  | .utc => return .utc reading
  | .offsetFromUtc =>
    let seconds ← readInt32
    match UtcOffset.of? seconds with
    | none => throw (.malformed (.offsetOutOfRange seconds.toInt))
    | some offset =>
      match OffsetReading.of? reading offset with
      | none => throw (.malformed .ambiguousOffset)
      | some value => return .offset value
  | spec => return .unanchored reading spec

end Datastream.Wire
