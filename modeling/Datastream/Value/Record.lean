import Datastream.Value.Flags
import Datastream.Calendar.DateTime

/-!
# Records

The identifiers, buffers and messages that ride inside values.

Models `is_valid` of each identifier.
-/
namespace Datastream

/-- A buffer: a channel, query or status window. -/
structure BufferId where
  id : Int32
  deriving DecidableEq, Repr

/-- A network configured on the core. -/
structure NetworkId where
  id : Int32
  deriving DecidableEq, Repr

/-- One of the user's identities. -/
structure IdentityId where
  id : Int32
  deriving DecidableEq, Repr

/-- A stored message. -/
structure MsgId where
  id : Int64
  deriving DecidableEq, Repr

/-- Identifiers that are not positive stand for none. -/
def BufferId.isValid (b : BufferId) : Bool := 0 < b.id
def NetworkId.isValid (n : NetworkId) : Bool := 0 < n.id
def IdentityId.isValid (i : IdentityId) : Bool := 0 < i.id
def MsgId.isValid (m : MsgId) : Bool := 0 < m.id

def BufferId.text (b : BufferId) : String := "BufferId(" ++ toString b.id.toInt ++ ")"
def NetworkId.text (n : NetworkId) : String := "NetworkId(" ++ toString n.id.toInt ++ ")"
def IdentityId.text (i : IdentityId) : String := "IdentityId(" ++ toString i.id.toInt ++ ")"
def MsgId.text (m : MsgId) : String := "MsgId(" ++ toString m.id.toInt ++ ")"

/-- What a buffer is: status, channel, query, group, from the lowest bit on. -/
abbrev BufferType := Flags (0x0f : BitVec 16)

/-- What a message is, a bit for each of nineteen kinds. -/
abbrev MessageType := Flags (0x7ffff : BitVec 32)

/-- Marks on a message: self, highlight, redirected, from the server, and backlog at the top. -/
abbrev MessageFlag := Flags (0x8f : BitVec 8)

structure BufferInfo where
  bufferId : BufferId
  networkId : NetworkId
  type : BufferType
  groupId : Int32
  name : Option String
  deriving DecidableEq, Repr

/-- The buffer that is none. -/
def BufferInfo.none : BufferInfo := ⟨⟨-1⟩, ⟨-1⟩, Flags.empty, -1, Option.none⟩

/-- A line of chat; `time` is read in UTC. -/
structure Message where
  id : MsgId
  time : Reading
  type : MessageType
  flag : MessageFlag
  buffer : BufferInfo
  sender : String
  prefixes : String
  realName : String
  avatarUrl : String
  content : String
  deriving DecidableEq, Repr

end Datastream
