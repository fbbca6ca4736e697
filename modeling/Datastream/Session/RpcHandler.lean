import Datastream.Sync.Method

/-!
# The rpc handler

The slots that the core calls on every client, each of which becomes an event.

Models `invoker` (`table`) and its slots, from `display_msg` to `disconnect_from_core`, and `send_input`.
-/
namespace Datastream.RpcHandler

/-- The class that the slots are registered under. -/
def className : String := "RpcHandler"

def displayMsg : String := "2displayMsg(Message)"
def displayStatusMsg : String := "2displayStatusMsg(QString,QString)"
def objectRenamed : String := "__objectRenamed__"
def bufferInfoUpdated : String := "2bufferInfoUpdated(BufferInfo)"
def identityCreated : String := "2identityCreated(Identity)"
def identityRemoved : String := "2identityRemoved(IdentityId)"
def networkCreated : String := "2networkCreated(NetworkId)"
def networkRemoved : String := "2networkRemoved(NetworkId)"
def passwordChanged : String := "2passwordChanged(PeerPtr,bool)"
def disconnectFromCore : String := "2disconnectFromCore()"

/-- The slot of the core that takes what the user typed. -/
def sendInputSlot : String := "2sendInput(BufferInfo,QString)"

/-- The object itself, which needs no state from the core. -/
def object : Object := ⟨className, "", true, false, false, .rpcHandler⟩

def sendInput (o : Object) (buffer : BufferInfo) (input : String) : List Effect :=
  o.rpc .core sendInputSlot [.bufferInfo buffer, .ofText input]

/-- A method that reads one parameter and publishes an event. -/
def publishing {α : Type} (slot : String) (read : Value → Option α) (event : α → Event) : Method :=
  fun o params => do
    return (o, [.publish (event (← Value.param read params 0 slot))])

/-- The core renamed an object, which is renamed here before the event is published. -/
def renamed : Method := fun o params => do
  let className ← Value.param Value.name? params 0 objectRenamed
  let newName ← Value.param Value.text? params 1 objectRenamed
  let oldName ← Value.param Value.text? params 2 objectRenamed
  let move := if o.attached then [Effect.rename className oldName newName] else []
  return (o, move ++ [.publish (.objectRenamed className newName oldName)])

def status : Method := fun o params => do
  let network ← Value.param Value.text? params 0 displayStatusMsg
  let message ← Value.param Value.text? params 1 displayStatusMsg
  return (o, [.publish (.statusMessage network message)])

/-- The peer is told by a pointer of the core; anything else counts as none. -/
def password : Method := fun o params => do
  let peer : UInt64 := match params.head? with
    | some (.peerPtr peer) => peer
    | _ => 0
  let success ← Value.param Value.bool? params 1 passwordChanged
  return (o, [.publish (.passwordChanged peer success)])

def table : MethodTable := .ofList className .rpcHandler
  [(displayMsg, publishing displayMsg Value.message? .message),
   (displayStatusMsg, status),
   (objectRenamed, renamed),
   (bufferInfoUpdated, publishing bufferInfoUpdated Value.bufferInfo? .bufferUpdated),
   (identityCreated, publishing identityCreated Value.fields? .identityCreated),
   (identityRemoved, publishing identityRemoved Value.identityId? .identityRemoved),
   (networkCreated, publishing networkCreated Value.networkId? .networkCreated),
   (networkRemoved, publishing networkRemoved Value.networkId? .networkRemoved),
   (passwordChanged, password),
   (disconnectFromCore, fun o _ => .ok (o, [.publish .disconnected]))]

end Datastream.RpcHandler
