import Datastream.Backlog.Manager
import Datastream.Handshake.Exchange
import Datastream.Link
import Datastream.Listing.Helper
import Datastream.Session.RpcHandler
import Datastream.Session.Tracker
import Datastream.Sync.Store

/-!
# Sessions

What the client knows of one connection, above its frames: the handshake, the objects that are kept
in step with the core's, and the requests that wait for a reply. An operation that fails leaves what
it has done by then. Objects are found by name, so an operation that is given an object acts on
whatever goes by that object's name.

Models `synchronize`, `stop_synchronize`, `rename`, `rekey`, `dispatch`, `clear`, `send_heartbeat`,
and the handler's `read` and `close`.
-/
namespace Datastream

/-- What the core's answers to heartbeats tell. -/
structure Heartbeat where
  /-- Whether any heartbeat, or answer to one, has come. -/
  received : Bool := false
  /-- The last round trip, in milliseconds. -/
  latency : Option Nat := none
  deriving DecidableEq, Repr

/-- The state of a session. -/
structure Session where
  link : Link := {}
  handshake : Handshake := {}
  /-- Every object that the program has made; the session's own ones come first. -/
  objects : Store
  repository : Repository := {}
  /-- The object that takes the calls that belong to no object. -/
  rpcHandler : Option Handle := none
  invokers : Invokers := []
  tracker : Tracker := {}
  heartbeat : Heartbeat := {}
  backlog : KeyedQueue BacklogRequest (List Value) := {}
  listings : KeyedQueue NetworkId ListingReply := {}
  /-- What happened, oldest first. -/
  events : List Event := []
  /-- What the wall clock reads, in UTC. -/
  clock : Reading

namespace Session

abbrev Action := EStateM Error Session

/-- The session's own objects. -/
def backlogManager : Handle := 0
def listHelper : Handle := 1
def ownRpcHandler : Handle := 2

/-- The objects that exist from the start, with the labels by which the program knows them. -/
def ownObjects : Store where
  objects := [⟨"backlog", BacklogManager.object, true, true⟩, ⟨"irc", ListHelper.object, true, true⟩,
    ⟨"rpc", RpcHandler.object, true, false⟩]

def ownInvokers : Invokers :=
  [RpcHandler.table, BacklogManager.table, ListHelper.table].foldl (·.register .client ·) []

/-- Whether an object is kept by anybody. -/
def isLive (s : Session) (handle : Handle) : Bool :=
  s.objects.isLive handle || s.rpcHandler == some handle

/-- The live object of a name. -/
def find? (s : Session) (className objectName : String) : Option Handle :=
  s.repository.find? s.isLive className objectName

/-- How many live objects are tracked. -/
def objectCount (s : Session) : Nat := s.repository.size s.isLive

def describe (s : Session) : String :=
  "ClientSession \x7b objects: " ++ toString s.objectCount ++ ", pending_init: " ++
    toString s.tracker.pending.length ++ " \x7d"

def onLink (act : EStateM Error Link Unit) : Action Unit := fun s =>
  match act s.link with
  | .ok _ link => .ok () { s with link }
  | .error error link => .error error { s with link }

def emit (m : ProxyMessage) : Action Unit := onLink (Link.emitProxy m)

def count (f : Metrics → Metrics) : Action Unit := modify fun s => { s with link := s.link.count f }

/-- Takes hold of an object, which fails if it was poisoned. -/
def lock (handle : Handle) : Action Object := fun s =>
  match s.objects.object? handle with
  | none => .error .poisoned s
  | some o => if o.poisoned then .error .poisoned s else .ok o s

def setObject (handle : Handle) (o : Object) : Action Unit :=
  modify fun s => { s with objects := s.objects.set handle o }

/-- Moves the entry of an object to another name. -/
def rekey (className oldName newName : String) : Action Unit :=
  modify fun s =>
    { s with repository := (s.repository.rename s.isLive className oldName newName).2 }

/-- Moves the entry of an object to another name and tells the object. -/
def rename (className oldName newName : String) : Action Unit := do
  let s ← get
  let (moved, repository) := s.repository.rename s.isLive className oldName newName
  set { s with repository }
  match moved with
  | none => return
  | some handle =>
    let o ← lock handle
    setObject handle { o with objectName := newName }

/-- Carries out what an object asked for. Calls to the client's own side go nowhere. -/
def perform : Effect → Action Unit
  | .sync .client .. | .rpc .client .. => return
  | .sync .core className objectName slot params => emit (.sync className objectName slot params)
  | .rpc .core slot params => emit (.rpc slot params)
  | .rekey className oldName newName => rekey className oldName newName
  | .rename className oldName newName => rename className oldName newName
  | .publish event => modify fun s => { s with events := s.events ++ [event] }
  | .backlog request messages =>
    modify fun s => { s with backlog := (s.backlog.resume request messages).2 }
  | .listing network reply =>
    modify fun s => { s with listings := (s.listings.resume network reply).2 }
  | .failListings reason =>
    modify fun s => { s with listings := (s.listings.resumeAll (.failed reason)).2 }

/-- Carries out effects up to the first that fails. -/
def performAll (effects : List Effect) : Action Unit := effects.forM perform

/-- Puts an object back after a change and carries out what it asked for. -/
def commit (handle : Handle) (changed : Object.Changed) : Action Unit := do
  let (o, effects) ← MonadExcept.ofExcept changed
  setObject handle o
  performAll effects

/-- Starts to track an object, and asks for its state if it has none. -/
def synchronize (handle : Handle) : Action Unit := do
  let o ← lock handle
  setObject handle { o with attached := true }
  let s ← get
  let (added, repository) := s.repository.add s.isLive o.className o.objectName handle
  set { s with repository }
  if added && !o.initialized then
    modify fun s => { s with tracker := s.tracker.requested o.className o.objectName }
    emit (.initRequest o.className o.objectName)

/-- Stops tracking an object. -/
def stop (handle : Handle) : Action Unit := do
  let o ← lock handle
  setObject handle { o with initialized := false }
  modify fun s => { s with
    repository := (s.repository.remove s.isLive o.className o.objectName).2
    tracker := (s.tracker.received o.className o.objectName).2 }

/-- Lets an object take the calls that belong to no object. -/
def setRpcHandler (handle : Handle) : Action Unit := do
  let o ← lock handle
  setObject handle { o with attached := true }
  modify fun s => { s with rpcHandler := some handle }

/-- Takes the state of an object; what nobody tracks is dropped. -/
def receiveState (className objectName : String) (state : Fields) : Action Unit := do
  match (← get).find? className objectName with
  | none => return
  | some handle =>
    let o ← lock handle
    setObject handle (← MonadExcept.ofExcept (o.init state))
    modify fun s => { s with tracker := (s.tracker.received className objectName).2 }

def dispatch : ProxyMessage → Action Unit
  | .heartBeat sent => do
    modify fun s => { s with heartbeat := { s.heartbeat with received := true } }
    emit (.heartBeatReply sent)
  | .heartBeatReply sent => do
    modify fun s => { s with
      heartbeat := ⟨true, some (s.clock.millis - sent.assumedMillis).toNat⟩ }
    count Metrics.heartbeatReply
  | .initData className objectName state => receiveState className objectName state
  | .initRequest .. => return
  | .rpc slot params => do
    let s ← get
    let table ← MonadExcept.ofExcept (s.invokers.get .client RpcHandler.className)
    match s.rpcHandler with
    | none => throw (.invokerNotFound RpcHandler.className)
    | some handle =>
      commit handle (table.invoke (← lock handle) slot params)
      count Metrics.rpc
  | .sync className objectName slot params => do
    let s ← get
    let table ← MonadExcept.ofExcept (s.invokers.get .client className)
    match s.find? className objectName with
    | none => throw (.objectNotFound className objectName)
    | some handle =>
      commit handle (table.invoke (← lock handle) slot params)
      count Metrics.sync

def read (payload : Bytes) : Action Unit := do
  let s ← get
  dispatch (← MonadExcept.ofExcept (ProxyMessage.decode s.link.registry s.link.features payload))

/-- Takes the payload of a frame of the handshake; says whether it ends the handshake. -/
def readHandshake (payload : Bytes) : Action Bool := do
  let s ← get
  let m ← MonadExcept.ofExcept (HandshakeMessage.decode s.link.registry s.link.features payload)
  let (ends, handshake) := s.handshake.receive m
  set { s with handshake }
  return ends

def sendHeartbeat : Action Unit := do
  emit (.heartBeat (.utc (← get).clock))
  count Metrics.heartbeatSent

/-- A call of the program on an object, poisoned or not. -/
def call (handle : Handle) (c : Object.Call) : Action Unit := do
  match (← get).objects.object? handle with
  | none => return
  | some o => commit handle (o.call c)

def sendInput (buffer : BufferInfo) (input : String) : Action Unit := do
  match (← get).objects.object? ownRpcHandler with
  | none => return
  | some o => performAll (RpcHandler.sendInput o buffer input)

/-- A session in which nothing has happened yet. -/
def fresh (clock : Reading) : Session :=
  let s : Session := { objects := ownObjects, invokers := ownInvokers, clock }
  match setRpcHandler ownRpcHandler s with
  | .ok _ s | .error _ s => s

/-- Forgets all objects. -/
def clear (s : Session) : Session := { s with repository := {} }

/-- The name under which the session takes part in a connection. -/
def name : String := "signal_proxy"

/-- Fails the requests that wait, forgets all objects and tells the program. -/
def close (s : Session) : Session :=
  { s.clear with
    backlog := s.backlog.close
    listings := s.listings.close
    events := s.events ++ [.closed] }

end Session
end Datastream
