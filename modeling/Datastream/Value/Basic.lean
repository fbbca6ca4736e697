import Datastream.Bytes
import Datastream.Net.Address
import Datastream.Text.Utf8
import Datastream.Value.Record
import Datastream.Value.Tag

/-!
# Values

A value knows its own type, so there is one way to write it down. Floating-point values are their
bit patterns. A map is a list of entries in increasing order of keys, without repetition, which
`Fields.insert` keeps.

Models `tag`, `byte_string` (`ofName`), `string_list` (`ofTexts`) and `is_null`.
-/
namespace Datastream

/-- A self-describing value. -/
inductive Value
  | void
  | bool (b : Bool)
  | char (n : Int8)
  | uchar (n : UInt8)
  | short (n : Int16)
  | ushort (n : UInt16)
  | int (n : Int32)
  | uint (n : UInt32)
  | long (n : Int64)
  | ulong (n : UInt64)
  | float (bits : UInt32)
  | double (bits : UInt64)
  | char16 (unit : UInt16)
  | string (s : Option String)
  | stringList (items : List (Option String))
  | bytes (b : Option Bytes)
  | date (d : Date)
  | time (t : TimeOfDay)
  | dateTime (t : DateTime)
  | uuid (bits : BitVec 128)
  | list (items : List Value)
  | map (fields : List (String × Value))
  | boxed (inner : Value)
  | bufferId (id : BufferId)
  | bufferInfo (info : BufferInfo)
  | message (m : Message)
  | identityId (id : IdentityId)
  | networkId (id : NetworkId)
  | msgId (id : MsgId)
  | hostAddress (address : HostAddress)
  | peerPtr (n : UInt64)
  | dccIpDetection (mode : UInt8)
  | dccPortSelection (mode : UInt8)
  | record (type : RecordType) (fields : List (String × Value))
  deriving Repr

/-- Named values, by increasing name. -/
abbrev Fields := List (String × Value)

namespace Fields

/-- Puts a value under a key, in place of the one that was there. -/
def insert (key : String) (value : Value) : Fields → Fields
  | [] => [(key, value)]
  | entry :: rest =>
    if key < entry.1 then (key, value) :: entry :: rest
    else if key = entry.1 then (key, value) :: rest
    else entry :: insert key value rest

def get? (fields : Fields) (key : String) : Option Value := fields.lookup key

/-- The map that a list of pairs leaves, later pairs replacing earlier ones. -/
def ofPairs (pairs : List (String × Value)) : Fields :=
  pairs.foldl (fun fields pair => fields.insert pair.1 pair.2) []

end Fields

namespace Value

instance : Inhabited Value := ⟨void⟩

def tag : Value → Tag
  | void => .plain .void
  | bool _ => .plain .bool
  | char _ => .plain .char
  | uchar _ => .plain .uchar
  | short _ => .plain .short
  | ushort _ => .plain .ushort
  | int _ => .plain .int
  | uint _ => .plain .uint
  | long _ => .plain .long
  | ulong _ => .plain .ulong
  | float _ => .plain .float
  | double _ => .plain .double
  | char16 _ => .plain .char16
  | string _ => .plain .string
  | stringList _ => .plain .stringList
  | bytes _ => .plain .bytes
  | date _ => .plain .date
  | time _ => .plain .time
  | dateTime _ => .plain .dateTime
  | uuid _ => .plain .uuid
  | list _ => .plain .list
  | map _ => .plain .map
  | boxed _ => .plain .boxed
  | bufferId _ => .named .bufferId
  | bufferInfo _ => .named .bufferInfo
  | message _ => .named .message
  | identityId _ => .named .identityId
  | networkId _ => .named .networkId
  | msgId _ => .named .msgId
  | hostAddress _ => .named .hostAddress
  | peerPtr _ => .named .peerPtr
  | dccIpDetection _ => .named .dccIpDetection
  | dccPortSelection _ => .named .dccPortSelection
  | record type _ => .named (.record type)

/-- A text as the byte array by which names travel. -/
def ofName (name : String) : Value := bytes (some (Utf8.encode name))

/-- A text that is not null. -/
def ofText (s : String) : Value := string (some s)

/-- A list of texts, none of them null. -/
def ofTexts (texts : List String) : Value := stringList (texts.map some)

/-- Nothing, a null string or a null byte array. -/
def isNull : Value → Bool
  | void | string none | bytes none => true
  | _ => false

end Value
end Datastream
