import Datastream.Sync.Effect
import Datastream.Text.Quoted

/-!
# Synchronized objects

An object is known by the names of its class and of itself. It gets its state once, and is kept up to
date by calls from then on. Until it has its state, and unless it is attached to a session, its own
calls do nothing.

Models `init`, `sync`, `rpc`, `update`, `request_update` and `rename_object`, which all objects have
in common.
-/
namespace Datastream

/-- What an object is, and what it holds besides its names. -/
inductive Body
  /-- One number, the property `value`. -/
  | counter (value : Int32)
  /-- Nothing at all. -/
  | bare
  | rpcHandler
  | backlogManager
  | listHelper
  deriving DecidableEq, Repr

namespace Body

/-- Whether two bodies are of one kind, whatever they hold. -/
def alike : Body → Body → Bool
  | counter _, counter _ | bare, bare | rpcHandler, rpcHandler | backlogManager, backlogManager
  | listHelper, listHelper => true
  | _, _ => false

/-- The body with new properties. Most have none and ignore them. -/
def withProperties (properties : Fields) : Body → Except Error Body
  | counter value =>
    if (properties.get? "fail").isSome then .error (.malformed (.other "rejected"))
    else .ok (counter (((properties.get? "value").bind Value.int?).getD value))
  | body => .ok body

def properties : Body → Fields
  | counter value => [("value", .int value)]
  | _ => []

end Body

structure Object where
  className : String
  objectName : String
  /-- Whether it has its state. -/
  initialized : Bool := false
  /-- Whether its calls reach a session. -/
  attached : Bool := false
  /-- Whether some use of it broke off halfway. -/
  poisoned : Bool := false
  body : Body
  deriving DecidableEq, Repr

namespace Object

/-- An object and the effects that a method asked for. -/
abbrev Changed := Except Error (Object × List Effect)

def init (o : Object) (properties : Fields) : Except Error Object := do
  return { o with body := ← o.body.withProperties properties, initialized := true }

/-- Whether the object's calls go anywhere. -/
def isLive (o : Object) : Bool := o.initialized && o.attached

/-- A call of the same slot at the other end. -/
def sync (o : Object) (target : Side) (slot : String) (params : List Value) : List Effect :=
  if o.isLive then [.sync target o.className o.objectName slot params] else []

/-- A call of a slot that belongs to no object. -/
def rpc (o : Object) (target : Side) (slot : String) (params : List Value) : List Effect :=
  if o.isLive then [.rpc target slot params] else []

/-- Takes new properties and tells the clients. -/
def update (o : Object) (properties : Fields) : Changed := do
  let o := { o with body := ← o.body.withProperties properties }
  return (o, o.sync .client "update" [.map properties])

/-- Asks the core to take properties, its own ones unless others are given. -/
def requestUpdate (o : Object) (properties : Option Fields) : List Effect :=
  o.sync .core "requestUpdate" [.map (properties.getD o.body.properties)]

/-- Takes a new name. -/
def rename (o : Object) (newName : String) : Object × List Effect :=
  if o.objectName = newName then (o, [])
  else ({ o with objectName := newName },
    if o.isLive then [.rekey o.className o.objectName newName] else [])

def describe (o : Object) : String :=
  "SyncableState \x7b class_name: " ++ Quoted.quote o.className ++ ", object_name: " ++
    Quoted.quote o.objectName ++ ", initialized: " ++ toString o.initialized ++ ", attached: " ++
    toString o.attached ++ " \x7d"

/-- What a program does with an object it holds. -/
inductive Call
  | init (properties : Fields)
  | update (properties : Fields)
  | requestUpdate (properties : Option Fields)
  | rename (newName : String)
  | sync (target : Side) (slot : String) (params : List Value)
  | rpc (target : Side) (slot : String) (params : List Value)
  | setName (name : String)
  | setInitialized (initialized : Bool)
  | detach
  deriving Repr

def call (o : Object) : Call → Changed
  | .init properties => do return (← o.init properties, [])
  | .update properties => o.update properties
  | .requestUpdate properties => .ok (o, o.requestUpdate properties)
  | .rename newName => .ok (o.rename newName)
  | .sync target slot params => .ok (o, o.sync target slot params)
  | .rpc target slot params => .ok (o, o.rpc target slot params)
  | .setName name => .ok ({ o with objectName := name }, [])
  | .setInitialized initialized => .ok ({ o with initialized }, [])
  | .detach => .ok ({ o with attached := false }, [])

end Object
end Datastream
