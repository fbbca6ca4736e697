import Datastream.Error
import Datastream.Value.Basic

/-!
# Typed extraction

Reading a value as what the caller expects it to be. A value of another type gives `none`; nothing
is converted, except that a null string or byte array may read as an empty one and that every map
shape reads as a map.

The readers are the cases of `from_qvariant`; `name?` and `param` model `as_byte_string` and
`expect_param`.
-/
namespace Datastream.Value

def bool? : Value → Option Bool
  | bool b => some b
  | _ => none

def char? : Value → Option Int8
  | char n => some n
  | _ => none

def uchar? : Value → Option UInt8
  | uchar n => some n
  | _ => none

def short? : Value → Option Int16
  | short n => some n
  | _ => none

def ushort? : Value → Option UInt16
  | ushort n => some n
  | _ => none

def int? : Value → Option Int32
  | int n => some n
  | _ => none

def uint? : Value → Option UInt32
  | uint n => some n
  | _ => none

def long? : Value → Option Int64
  | long n => some n
  | _ => none

def ulong? : Value → Option UInt64
  | ulong n => some n
  | _ => none

def float? : Value → Option UInt32
  | float bits => some bits
  | _ => none

def double? : Value → Option UInt64
  | double bits => some bits
  | _ => none

def date? : Value → Option Date
  | date d => some d
  | _ => none

def time? : Value → Option TimeOfDay
  | time t => some t
  | _ => none

def dateTime? : Value → Option DateTime
  | dateTime t => some t
  | _ => none

def uuid? : Value → Option (BitVec 128)
  | uuid bits => some bits
  | _ => none

def bufferId? : Value → Option BufferId
  | bufferId id => some id
  | _ => none

def identityId? : Value → Option IdentityId
  | identityId id => some id
  | _ => none

def networkId? : Value → Option NetworkId
  | networkId id => some id
  | _ => none

def msgId? : Value → Option MsgId
  | msgId id => some id
  | _ => none

def hostAddress? : Value → Option HostAddress
  | hostAddress address => some address
  | _ => none

def bufferInfo? : Value → Option BufferInfo
  | bufferInfo info => some info
  | _ => none

def message? : Value → Option Message
  | message m => some m
  | _ => none

/-- A string, null or not. -/
def nullableText? : Value → Option (Option String)
  | string s => some s
  | _ => none

/-- A string; null reads as empty. -/
def text? : Value → Option String
  | string s => some (s.getD "")
  | _ => none

/-- A byte array; null reads as empty. -/
def bytes? : Value → Option Bytes
  | bytes b => some (b.getD [])
  | _ => none

/-- The text that a byte array spells, as names travel; null reads as empty. -/
def name? : Value → Option String
  | bytes b => some (Utf8.decode (b.getD []))
  | _ => none

/-- The entries of a map, whatever its type is called. -/
def fields? : Value → Option Fields
  | map fields => some fields
  | record _ fields => some fields
  | _ => none

/-- The items of a list, all of them read alike; a list of strings will do. -/
def listOf? {α : Type} (item : Value → Option α) : Value → Option (List α)
  | list items => items.mapM item
  | stringList items => items.mapM fun s => item (string s)
  | _ => none

/-- The items of a list as they are. -/
def list? : Value → Option (List Value) := listOf? some

/-- A parameter of a call. One that is missing counts as one of the wrong type. -/
def param {α : Type} (read : Value → Option α) (params : List Value) (index : Nat)
    (method : String) : Except Error α :=
  match params[index]?.bind read with
  | some x => .ok x
  | none => .error (.wrongParameter method index)

end Datastream.Value
