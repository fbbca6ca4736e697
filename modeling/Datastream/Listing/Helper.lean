import Datastream.Sync.Method

/-!
# The list helper

The object whose slots the core calls about channel listings.

Models the slots `receive_channel_list`, `report_finished_list` and `report_error`.
-/
namespace Datastream.ListHelper

open ListingReply

/-- The object itself, which needs no state from the core. -/
def object : Object := ⟨className, "", true, false, false, .listHelper⟩

/-- What a search found; the filters are repeated, and have to be texts. -/
def received : Method := fun o params => do
  let network ← Value.param Value.networkId? params 0 receiveSlot
  let _ ← Value.param (Value.listOf? Value.text?) params 1 receiveSlot
  let rows ← Value.param Value.list? params 2 receiveSlot
  return (o, [.listing network (.channels rows)])

def finished : Method := fun o params => do
  return (o, [.listing (← Value.param Value.networkId? params 0 finishedSlot) .finished])

def failed : Method := fun o params => do
  let reason ← Value.param Value.nullableText? params 0 errorSlot
  return (o, [.failListings (reason.getD Error.unknownReason)])

def table : MethodTable := .ofList className .listHelper
  [(receiveSlot, received), (finishedSlot, finished), (errorSlot, failed)]

end Datastream.ListHelper
