import Datastream.Sync.Method

/-!
# The backlog manager

The object whose slots the core calls with stored messages.

Models `invoker` (`table`) and its five slots, from `receive_backlog` to `receive_backlog_all_filtered`,
which all come down to one `receive`.
-/
namespace Datastream.BacklogManager

def object : Object := ⟨BacklogRequest.className, "", false, false, false, .backlogManager⟩

def receive (slot : String) : Method := fun o params => do
  let (request, messages) ← BacklogRequest.ofReply slot params
  return (o, [.backlog request messages])

def table : MethodTable := .ofList BacklogRequest.className .backlogManager
  (BacklogRequest.receiveSlots.map fun slot => (slot, receive slot))

end Datastream.BacklogManager
