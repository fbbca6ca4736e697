import Datastream.Session.Basic
import Datastream.Turn

/-!
# Searching for channels

A listing takes two rounds: a request with the caller's filters starts the search, a report says that
it has finished, and a request without filters then fetches what was found. In the first round the
reply to somebody else's fetch is passed over, in the second the report of somebody else's search.

Models `channel_list` and its `search_and_fetch`, cut where it waits (`Listing.turn`).
-/
namespace Datastream

/-- The round that a listing is in. -/
inductive ListingRound
  | searching
  | fetching
  deriving DecidableEq, Repr

/-- A listing of the channels of a network. -/
inductive Listing
  | fresh (network : NetworkId) (filters : List String)
  | waiting (network : NetworkId) (round : ListingRound) (id : Nat)
  deriving DecidableEq, Repr

namespace Listing

open Session (Action)

abbrev Outcome := Turn Listing (Except Error (List FoundChannel))

/-- Asks the core to search, or to hand over what it found. -/
def request (network : NetworkId) (filters : List String) : Action Unit := do
  let o ← Session.lock Session.listHelper
  if !o.attached then throw (.objectNotFound ListingReply.className "")
  Session.performAll
    (o.sync .core ListingReply.requestSlot [.networkId network, .ofTexts filters])

/-- Waits for the next reply about the network. -/
def await (network : NetworkId) (round : ListingRound) (send : Action Unit) (s : Session) :
    Outcome × Session :=
  match KeyedQueue.wait Session.listings (fun f s => { s with listings := f s.listings })
      [network] send s with
  | .ok id s => (.waiting (.waiting network round id), s)
  | .error error s => (.done (.error error), s)

def take (network : NetworkId) : ListingRound → ListingReply → Session → Outcome × Session
  | _, .failed reason, s => (.done (.error (.listingFailed reason)), s)
  | .searching, .finished, s => await network .fetching (request network []) s
  | .searching, .channels _, s => await network .searching (pure ()) s
  | .fetching, .channels rows, s => (.done (.ok (rows.filterMap (FoundChannel.ofRow? network))), s)
  | .fetching, .finished, s => await network .fetching (pure ()) s

def turn : Listing → Session → Outcome × Session
  | .fresh network filters, s => await network .searching (request network filters) s
  | .waiting network round id, s =>
    match s.listings.collect id with
    | none => (.waiting (.waiting network round id), s)
    | some (.error error, listings) => (.done (.error error), { s with listings })
    | some (.ok reply, listings) => take network round reply { s with listings }

def cancel : Listing → Session → Session
  | .fresh .., s => s
  | .waiting _ _ id, s => { s with listings := s.listings.withdraw id }

end Listing
end Datastream
