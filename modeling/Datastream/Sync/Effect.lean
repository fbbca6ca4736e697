import Datastream.Backlog.Request
import Datastream.Listing.Reply
import Datastream.Session.Event

/-!
# Effects

What an object's method does beyond the object. A method returns the effects it asks for, in order;
whoever holds the object carries them out, and stops at the first that fails.

The effects model what an object calls on its proxy: `sync`, `rpc`, `rename` and `rekey`.
-/
namespace Datastream

/-- The two ends of a session. -/
inductive Side
  | client
  | core
  deriving DecidableEq, Repr

namespace Side

def opposite : Side → Side
  | client => core
  | core => client

def name : Side → String
  | client => "client"
  | core => "core"

def ofName? : String → Option Side
  | "client" => some client
  | "core" => some core
  | _ => none

end Side

/-- Something that an object asks for. -/
inductive Effect
  /-- Calls a slot of the object's other end. -/
  | sync (target : Side) (className objectName slot : String) (params : List Value)
  /-- Calls a slot that belongs to no object. -/
  | rpc (target : Side) (slot : String) (params : List Value)
  /-- The object has taken a new name and is to be found under it. -/
  | rekey (className oldName newName : String)
  /-- The core has given an object a new name. -/
  | rename (className oldName newName : String)
  | publish (event : Event)
  | backlog (request : BacklogRequest) (messages : List Value)
  | listing (network : NetworkId) (reply : ListingReply)
  /-- No network is named, so every listing is meant. -/
  | failListings (reason : String)
  deriving Repr

end Datastream
