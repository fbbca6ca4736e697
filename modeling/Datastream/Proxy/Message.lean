import Datastream.Value.Extract
import Datastream.Wire.Decode
import Datastream.Wire.Encode

/-!
# Signal proxy messages

What the ends exchange in a session: calls of slots, the state of objects, and heartbeats. Each
message is a flat list that opens with the number of its kind; names travel as byte arrays.

Models `to_list` and `from_list` (`ofList`, with `name_at` and `timestamp_at`), and the `serialize`
and `deserialize` of these messages.
-/
namespace Datastream

inductive ProxyMessage
  | sync (className objectName slot : String) (params : List Value)
  | rpc (slot : String) (params : List Value)
  | initRequest (className objectName : String)
  | initData (className objectName : String) (state : Fields)
  | heartBeat (sent : DateTime)
  | heartBeatReply (sent : DateTime)
  deriving Repr

namespace ProxyMessage

def kind : ProxyMessage → Int32
  | sync .. => 1
  | rpc .. => 2
  | initRequest .. => 3
  | initData .. => 4
  | heartBeat _ => 5
  | heartBeatReply _ => 6

def toList (m : ProxyMessage) : List Value :=
  .int m.kind ::
  match m with
  | sync className objectName slot params =>
    .ofName className :: .ofName objectName :: .ofName slot :: params
  | rpc slot params => .ofName slot :: params
  | initRequest className objectName => [.ofName className, .ofName objectName]
  | initData className objectName state =>
    .ofName className :: .ofName objectName ::
      state.flatMap fun entry => [.ofName entry.1, entry.2]
  | heartBeat sent | heartBeatReply sent => [.dateTime sent]

/-- The name at a place; `role` says what it names. -/
def nameAt (items : List Value) (place : Nat) (role : String) : Except Error String :=
  match items[place]?.bind Value.name? with
  | some name => .ok name
  | none => .error (.malformed (.proxyNameMissing role))

def timestampOf (items : List Value) : Except Error DateTime :=
  match items[1]?.bind Value.dateTime? with
  | some sent => .ok sent
  | none => .error (.malformed .noTimestamp)

/-- The state that alternating names and values set; of equal names the last counts. -/
def stateOf (className objectName : String) : List Value → Fields → Except Error Fields
  | [], state => .ok state
  | key :: rest, state =>
    match key.name?, rest with
    | none, _ => .error (.malformed (.initKeyNotText key.tag.name className objectName))
    | some k, [] => .error (.malformed (.initKeyWithoutValue k))
    | some k, value :: rest => stateOf className objectName rest (state.insert k value)

/-- The message that a list of values makes up. -/
def ofList (items : List Value) : Except Error ProxyMessage := do
  match items.head? with
  | none => throw (.malformed .emptyProxyMessage)
  | some (.int kind) =>
    if kind = 1 then
      let className ← nameAt items 1 "class name"
      let objectName ← nameAt items 2 "object name"
      let slot ← nameAt items 3 "slot name"
      return .sync className objectName slot (items.drop 4)
    else if kind = 2 then
      let slot ← nameAt items 1 "slot name"
      return .rpc slot (items.drop 2)
    else if kind = 3 then
      let className ← nameAt items 1 "class name"
      let objectName ← nameAt items 2 "object name"
      return .initRequest className objectName
    else if kind = 4 then
      let className ← nameAt items 1 "class name"
      let objectName ← nameAt items 2 "object name"
      let state ← stateOf className objectName (items.drop 3) []
      return .initData className objectName state
    else if kind = 5 then return .heartBeat (← timestampOf items)
    else if kind = 6 then return .heartBeatReply (← timestampOf items)
    else throw (.malformed (.unknownProxyKind kind.toInt))
  | some other => throw (.malformed (.proxyKindNotInt other.tag.name))

/-- The payload of the frame that carries a message. -/
def encode (r : Registry) (f : FeatureSet) (m : ProxyMessage) : Except Error Bytes :=
  (Value.encodeList r f m.toList).toExcept

/-- The message that the payload of a frame carries; bytes after it are ignored. -/
def decode (r : Registry) (f : FeatureSet) (payload : Bytes) : Except Error ProxyMessage :=
  match Value.decodeList r f payload with
  | .error error _ => .error error
  | .ok items _ => ofList items

end ProxyMessage
end Datastream
