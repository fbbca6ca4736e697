import Datastream.Sync.Object
import Datastream.Value.Form

/-!
# Objects as plain data

Objects and what is done with them, as told to and by other programs.
-/
namespace Datastream

open Datum

instance : OfDatum Side := ⟨fun d => d.text?.bind Side.ofName?⟩
instance : ToDatum Side := ⟨fun s => text s.name⟩

/-- A new object of one of the kinds that a program makes. -/
instance : OfDatum Object := ⟨fun d => do
  let body ← match ← d.read "kind" with
    | "counter" => some (Body.counter 0)
    | "impostor" => some .bare
    | _ => none
  return { className := ← d.read "class", objectName := ← d.read "name", body }⟩

instance : ToDatum Object := ⟨fun o => record
  [("class", text o.className), ("name", text o.objectName),
   ("initialized", toDatum o.initialized), ("attached", toDatum o.attached),
   ("debug", text o.describe), ("map", toDatum o.body.properties),
   ("value", match o.body with
     | .counter value => toDatum value
     | _ => null)]⟩

instance : OfDatum Object.Call := ⟨fun d => do
  match ← d.read "fn" with
  | "init" => .init <$> d.readFields "map"
  | "update" => .update <$> d.readFields "map"
  | "request_update" =>
    let given : Option (List (String × Value)) ← d.read "map"
    return .requestUpdate (given.map Fields.ofPairs)
  | "rename_object" => .rename <$> d.read "name"
  | "sync" => return .sync (← d.read "target") (← d.read "slot") (← d.read "params")
  | "rpc" => return .rpc (← d.read "target") (← d.read "slot") (← d.read "params")
  | "set_name" => .setName <$> d.read "name"
  | "set_initialized" => .setInitialized <$> d.read "value"
  | "detach" => some .detach
  | _ => none⟩

/-- Calls of slots and changes of names, of all that an object may ask for. -/
instance : ToDatum Effect := ⟨fun
  | .sync target className objectName slot params =>
    items [text "sync", toDatum target, text className, text objectName, text slot, toDatum params]
  | .rpc target slot params => items [text "rpc", toDatum target, text slot, toDatum params]
  | .rekey className oldName newName =>
    items [text "rekey", text className, text oldName, text newName]
  | .rename className oldName newName =>
    items [text "rename", text className, text oldName, text newName]
  | _ => null⟩

end Datastream
