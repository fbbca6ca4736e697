import Datastream.Negotiation.Exchange
import Datastream.Value.Form

/-!
# Negotiation as plain data

Protocols, headers and what came of a negotiation. Layers that are read lose the bits that mean
nothing.
-/
namespace Datastream

open Datum

instance : ToDatum ProtocolMeta := ⟨fun p => record
  [("version", toDatum p.version.toByte), ("name", text p.version.name), ("data", toDatum p.data)]⟩

instance : ToDatum ClientHeader := ⟨fun h => record
  [("features", toDatum h.features), ("protocols", toDatum h.protocols)]⟩

instance : ToDatum CoreHeader := ⟨fun h => record
  [("features", toDatum h.features), ("meta", toDatum h.protocol)]⟩

def Layers.ofForm? (d : Datum) : Option Layers := do
  let bits : Nat ← ofDatum? d
  return .truncate (.ofNat 8 bits)

def ProtocolMeta.ofForm? (d : Datum) : Option (Except Error ProtocolMeta) := do
  let (version, data) : UInt8 × UInt16 ← ofDatum? d
  return (ProtocolVersion.ofByte? version).map (⟨·, data⟩)

instance : ToDatum LayerStack := ⟨fun s => record
  [("tls", toDatum s.isSecure), ("compressed", toDatum s.isCompressed),
   ("info", toDatum s.isSecure)]⟩

instance : ToDatum Offer.Agreement := ⟨fun a => record
  [("features", toDatum a.reply.features), ("meta", toDatum a.reply.protocol),
   ("compressed", toDatum a.stack.isCompressed), ("tls", toDatum a.stack.isSecure)]⟩

end Datastream
