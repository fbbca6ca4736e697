import Datastream.Proofs.Wire.Primitive
import Datastream.Proofs.Wire.Registry
import Datastream.Wire.Encode

/-!
# Entries and the types of values

What is registered under the type of a value takes the value (`payloadAs_tag`), and no other entry does
(`payloadAs_of_ne`): each type that `Value.tag` gives belongs to the one entry that is for values of that
constructor. So a payload is written by its value alone (`payload`), and a boxed value is a header and a
payload (`encode_eq`).
-/
namespace Datastream

namespace Wire

variable (r : Registry) (f : FeatureSet)

def payload : Value → Output
  | .void => .empty
  | .bool b => .write (bool b)
  | .char n => .write (int8 n)
  | .uchar n => .write [n]
  | .short n => .write (int16 n)
  | .ushort n => .write (Bytes.u16 n)
  | .int n => .write (int32 n)
  | .uint n => .write (Bytes.u32 n)
  | .long n => .write (int64 n)
  | .ulong n => .write (Bytes.u64 n)
  | .float bits => .write (Bytes.u32 bits)
  | .double bits => .write (Bytes.u64 bits)
  | .char16 unit => .write (Bytes.u16 unit)
  | .string s => utf16 s
  | .stringList items => count items.length ++ stringList items
  | .bytes b => bytes b
  | .date d => .write (date d)
  | .time t => .write (time t)
  | .dateTime t => .write (dateTime t)
  | .uuid bits => .write (Bytes.ofNat 16 bits.toNat)
  | .list items => count items.length ++ boxes r f items
  | .map fields => count fields.length ++ entries r f fields
  | .boxed inner => inner.encode r f
  | .bufferId id => .write (int32 id.id)
  | .bufferInfo info => bufferInfo info
  | .message m => message f m
  | .identityId id => .write (int32 id.id)
  | .networkId id => .write (int32 id.id)
  | .msgId id => .write (msgId f id)
  | .hostAddress address => .write (hostAddress address)
  | .peerPtr n => .write (Bytes.u64 n)
  | .dccIpDetection mode => .write [mode]
  | .dccPortSelection mode => .write [mode]
  | .record _ fields => count fields.length ++ entries r f fields

theorem payloadAs_tag (v : Value) : payloadAs r f v.tag v = payload r f v := by
  cases v with
  | date d => exact checkedDate_eq d
  | dateTime t => exact checkedDateTime_eq t
  | record type fields => exact if_pos rfl
  | _ => rfl

theorem payloadAs_of_ne {entry : Tag} {v : Value} (other : v.tag ≠ entry) :
    payloadAs r f entry v = mismatch entry v := by
  rw [payloadAs.eq_def]
  -- an entry's own constructor, the records of another type, or any other constructor
  split <;> first
    | exact absurd rfl other
    | exact if_neg fun same => other (congrArg (fun type => Tag.named (.record type)) same)
    | rfl

def boxHeader (tag : Tag) : Output := withEntry r tag header

end Wire

namespace Value

open Wire

theorem encode_eq (r : Registry) (f : FeatureSet) (v : Value) :
    v.encode r f = boxHeader r v.tag ++ payload r f v := by
  rw [← payloadAs_tag, encode, boxHeader, withEntry, withEntry, Registry.lookup]
  cases r.knows v.tag <;> rfl

theorem encodePayload_eq {r : Registry} {v : Value} (known : r.knows v.tag = true) (f : FeatureSet) :
    v.encodePayload r f = payload r f v := by
  rw [encodePayload, encodeAs, withEntry, (r.lookup_eq_ok_iff v.tag).mpr known]
  exact payloadAs_tag r f v

end Value
end Datastream
