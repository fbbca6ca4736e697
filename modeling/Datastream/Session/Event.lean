import Datastream.Value.Basic

/-!
# Session events

What a session tells the program about.
-/
namespace Datastream

inductive Event
  | message (m : Message)
  | statusMessage (network message : String)
  | objectRenamed (className newName oldName : String)
  | bufferUpdated (info : BufferInfo)
  | identityCreated (identity : Fields)
  | identityRemoved (id : IdentityId)
  | networkCreated (id : NetworkId)
  | networkRemoved (id : NetworkId)
  | passwordChanged (peer : UInt64) (success : Bool)
  | disconnected
  | closed
  deriving Repr

end Datastream
