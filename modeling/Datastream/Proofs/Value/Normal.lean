import Datastream.Feature
import Datastream.Proofs.Calendar.Precision
import Datastream.Proofs.Value.Tree

/-!
# Normal forms

What of a value the wire can carry under a set of features: times to the millisecond, message times
to the millisecond or the second, ids of 32 bits without long ids, flags with a meaning, and the
texts that the features let a message have. All else is carried as it is, so `normalize` changes no
constructor, no order and no key.
-/
namespace Datastream

/-- The flags that have a meaning. -/
def Flags.normalize {width : Nat} {mask : BitVec width} (flags : Flags mask) : Flags mask :=
  Flags.truncate flags.bits

theorem Flags.normalize_truncate {width : Nat} {mask : BitVec width} (bits : BitVec width) :
    (truncate bits : Flags mask).normalize = truncate bits := by
  rw [normalize, truncate, truncate, BitVec.and_assoc, BitVec.and_self]

/-- Without long ids, the low 32 bits, taken as a signed number. -/
def MsgId.normalize (f : FeatureSet) (id : MsgId) : MsgId :=
  if f.has .longMessageId then id else ⟨id.id.toInt32.toInt64⟩

def BufferInfo.normalize (info : BufferInfo) : BufferInfo := { info with type := info.type.normalize }

def FeatureSet.keep (f : FeatureSet) (feature : Feature) (text : String) : String :=
  if f.has feature then text else ""

def Message.normalize (f : FeatureSet) (m : Message) : Message :=
  { id := m.id.normalize f
    time := if f.has .longTime then m.time.wholeMillis else m.time.wholeSeconds
    type := m.type.normalize
    flag := m.flag.normalize
    buffer := m.buffer.normalize
    sender := m.sender
    prefixes := f.keep .senderPrefixes m.prefixes
    realName := f.keep .richMessages m.realName
    avatarUrl := f.keep .richMessages m.avatarUrl
    content := m.content }

namespace Value

mutual

/-- The value as the wire carries it. -/
def normalize (f : FeatureSet) : Value → Value
  | time t => time t.wholeMillis
  | dateTime t => dateTime t.normalize
  | bufferInfo info => bufferInfo info.normalize
  | message m => message (m.normalize f)
  | msgId id => msgId (id.normalize f)
  | list items => list (normalizeItems f items)
  | map fields => map (normalizeFields f fields)
  | record type fields => record type (normalizeFields f fields)
  | boxed inner => boxed (normalize f inner)
  | v => v

def normalizeItems (f : FeatureSet) : List Value → List Value
  | [] => []
  | v :: rest => normalize f v :: normalizeItems f rest

def normalizeFields (f : FeatureSet) : List (String × Value) → List (String × Value)
  | [] => []
  | (key, v) :: rest => (key, normalize f v) :: normalizeFields f rest

end

theorem normalizeItems_eq_map (f : FeatureSet) (items : List Value) :
    normalizeItems f items = items.map (normalize f) := by
  induction items with
  | nil => simp [normalizeItems]
  | cons v rest ih => simp [normalizeItems, ih]

theorem normalizeFields_eq_map (f : FeatureSet) (fields : Fields) :
    normalizeFields f fields = fields.map fun entry => (entry.1, normalize f entry.2) := by
  induction fields with
  | nil => simp [normalizeFields]
  | cons entry rest ih => simp [normalizeFields, ih]

/-- A value that the wire carries as it is. -/
def IsNormal (f : FeatureSet) (v : Value) : Prop := v.normalize f = v

/-- The keys of a map are in order; of other values this asks nothing. -/
def keysInOrder : Value → Bool
  | map fields => decide (Fields.Sorted fields)
  | record _ fields => decide (Fields.Sorted fields)
  | _ => true

/-- In all maps inside, the keys are in order, as `Fields.insert` leaves them. -/
def WellFormed (v : Value) : Prop := ∀ part ∈ v.parts, part.keysInOrder = true

instance (v : Value) : Decidable v.WellFormed :=
  inferInstanceAs (Decidable (∀ part ∈ v.parts, part.keysInOrder = true))

/-- Not a date-time that claims an offset without having one. -/
def offsetIsHonest : Value → Bool
  | dateTime (.unanchored _ .offsetFromUtc) => false
  | _ => true

/-- All date-times inside have the offset they claim to have. -/
def HasHonestOffsets (v : Value) : Prop := ∀ part ∈ v.parts, part.offsetIsHonest = true

instance (v : Value) : Decidable v.HasHonestOffsets :=
  inferInstanceAs (Decidable (∀ part ∈ v.parts, part.offsetIsHonest = true))

/-- Not a message in a leap second. -/
def instantIsOrdinary : Value → Bool
  | message m => decide (m.time.time.nanos < 1000000000)
  | _ => true

/-- All messages inside are of ordinary instants. -/
def HasOrdinaryInstants (v : Value) : Prop := ∀ part ∈ v.parts, part.instantIsOrdinary = true

instance (v : Value) : Decidable v.HasOrdinaryInstants :=
  inferInstanceAs (Decidable (∀ part ∈ v.parts, part.instantIsOrdinary = true))

end Value
end Datastream
