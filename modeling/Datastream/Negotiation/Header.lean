import Datastream.Text.Hex
import Datastream.Value.Flags
import Datastream.Wire.Primitive

/-!
# Negotiation headers

The first bytes on a connection. The client offers stream layers and protocols; the core answers in
four bytes with the layers to put on and the protocol to speak.

Models the `encode` and `decode` of both headers.
-/
namespace Datastream

/-- Stream layers: TLS, then compression. -/
abbrev Layers := Flags (0x03 : BitVec 8)

namespace Layers

def tls : Layers := ⟨0x01⟩
def compression : Layers := ⟨0x02⟩

end Layers

/-- A protocol that both ends may speak. -/
inductive ProtocolVersion
  | legacy
  | datastream
  deriving DecidableEq, Repr

namespace ProtocolVersion

def toByte : ProtocolVersion → UInt8
  | legacy => 1
  | datastream => 2

def ofByte? (b : UInt8) : Except Error ProtocolVersion :=
  if b = 1 then .ok legacy else if b = 2 then .ok datastream else .error (.unsupportedVersion b)

def name : ProtocolVersion → String
  | legacy => "legacy"
  | datastream => "datastream"

end ProtocolVersion

/-- A protocol and the word of data that goes with it. -/
structure ProtocolMeta where
  version : ProtocolVersion
  data : UInt16
  deriving DecidableEq, Repr

/-- What the client offers. -/
structure ClientHeader where
  features : Layers
  protocols : List ProtocolMeta
  deriving DecidableEq, Repr

/-- What the core chooses. -/
structure CoreHeader where
  features : Layers
  protocol : ProtocolMeta
  deriving DecidableEq, Repr

namespace ClientHeader

/-- The number whose upper three bytes open a connection. -/
def magic : Nat := 0x42b33f00

/-- The protocols, the last of them marked. -/
def entries : List ProtocolMeta → Bytes
  | [] => []
  | [p] => 0x80 :: (Bytes.u16 p.data ++ [p.version.toByte])
  | p :: rest => 0x00 :: (Bytes.u16 p.data ++ [p.version.toByte]) ++ entries rest

def encode (h : ClientHeader) : Bytes :=
  Bytes.ofNat 4 (magic + h.features.toNat) ++ entries h.protocols

/-- Protocols up to the marked one, of which there are at most `fuel`. -/
def readEntries : (fuel : Nat) → Reader (List ProtocolMeta)
  | 0 => return []
  | fuel + 1 => do
    Reader.ensure 4
    let marker ← Wire.readUInt8
    let data ← Wire.readUInt16
    let version ← Wire.readUInt8
    match ProtocolVersion.ofByte? version with
    | .error error => throw error
    | .ok version =>
      if marker &&& 0x80 != 0 then return [⟨version, data⟩]
      else return ⟨version, data⟩ :: (← readEntries fuel)

/-- Reads a header. An entry takes four bytes, so the input bounds their number. -/
def decode : Reader ClientHeader := do
  let word ← Reader.number 4
  if word / 256 * 256 ≠ magic then throw (.malformed (.badMagic (Hex.padded 8 word)))
  let input ← get
  let protocols ← readEntries (input.length / 4 + 1)
  return ⟨Flags.truncate (BitVec.ofNat 8 word), protocols⟩

end ClientHeader

namespace CoreHeader

/-- The length of an answer. -/
def size : Nat := 4

def encode (h : CoreHeader) : Bytes :=
  Bytes.ofNat 1 h.features.toNat ++ Bytes.u16 h.protocol.data ++ [h.protocol.version.toByte]

def decode : Reader CoreHeader := do
  let features ← Wire.readUInt8
  let data ← Wire.readUInt16
  let version ← Wire.readUInt8
  match ProtocolVersion.ofByte? version with
  | .error error => throw error
  | .ok version => return ⟨Flags.truncate features.toBitVec, ⟨version, data⟩⟩

end CoreHeader
end Datastream
