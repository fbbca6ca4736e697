import Datastream.Value.Extract

/-!
# Channel listings

What the core reports about a search for channels, and the channels that it found.

Models `from_row` (`FoundChannel.ofRow?`).
-/
namespace Datastream

inductive ListingReply
  | finished
  | channels (rows : List Value)
  | failed (reason : String)
  deriving Repr

structure FoundChannel where
  network : NetworkId
  name : String
  users : UInt32
  topic : String
  deriving DecidableEq, Repr

namespace FoundChannel

/-- A row of three columns; a column of the wrong type counts as empty, and other rows as nothing. -/
def ofRow? (network : NetworkId) (row : Value) : Option FoundChannel :=
  match row.list? with
  | some [name, users, topic] =>
    some ⟨network, name.text?.getD "", users.uint?.getD 0, topic.text?.getD ""⟩
  | _ => none

end FoundChannel

namespace ListingReply

def className : String := "IrcListHelper"

/-- The slot that starts a search, and that fetches what was found. -/
def requestSlot : String := "requestChannelList"

def receiveSlot : String := "receiveChannelList"
def finishedSlot : String := "reportFinishedList"
def errorSlot : String := "reportError"

end ListingReply
end Datastream
