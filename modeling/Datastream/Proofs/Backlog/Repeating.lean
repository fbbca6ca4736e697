import Datastream.Backlog.Request
import Datastream.Proofs.Proxy.RoundTrip

/-!
# What of a backlog request can be repeated

A reply to a backlog request begins with the parameters of the request, as the core read them. Message
ids may have been narrowed on the way, and of the filters the reader keeps the bits with a meaning. So
the request that is read out of the reply is the one that was made just when it is `Repeatable`.
-/
namespace Datastream

theorem MsgId.normalize_normalize (f : FeatureSet) (id : MsgId) :
    (id.normalize f).normalize f = id.normalize f := by
  unfold normalize
  split
  · rfl
  · simp only [Int32.toInt32_toInt64]

/-- An id is carried as it is if ids are long or it fits the shorter field. -/
theorem MsgId.normalize_eq_self_iff (f : FeatureSet) (id : MsgId) :
    id.normalize f = id ↔ f.has .longMessageId = true ∨
      -2147483648 ≤ id.id.toInt ∧ id.id.toInt ≤ 2147483647 := by
  unfold normalize
  by_cases long : f.has .longMessageId = true
  · simp [long]
  obtain ⟨n⟩ := id
  have narrowed : n.toInt32.toInt64 = n ↔ n.toInt.bmod 4294967296 = n.toInt := by
    rw [← Int64.toInt_inj, Int32.toInt_toInt64, Int64.toInt_toInt32]
  simp only [long, if_false, Bool.false_eq_true, false_or, MsgId.mk.injEq, narrowed]
  rw [Int.bmod_eq_iff (by decide)]
  constructor
  · rintro ⟨lower, upper, -⟩
    omega
  · rintro ⟨lower, upper⟩
    refine ⟨by omega, by omega, ?_⟩
    rw [Int.sub_self]
    exact Int.dvd_zero _

theorem Flags.normalize_eq_self_iff {width : Nat} {mask : BitVec width} (flags : Flags mask) :
    flags.normalize = flags ↔ (Flags.all : Flags mask).contains flags = true := by
  obtain ⟨bits⟩ := flags
  rw [normalize, truncate, contains, all, Flags.mk.injEq, BitVec.and_comm, beq_iff_eq]

namespace BacklogRequest

def map (id : MsgId → MsgId) (type : MessageType → MessageType) (flags : MessageFlag → MessageFlag) :
    BacklogRequest → BacklogRequest
  | buffer b first last limit additional => buffer b (id first) (id last) limit additional
  | bufferFiltered b first last limit additional t g =>
    bufferFiltered b (id first) (id last) limit additional (type t) (flags g)
  | bufferForward b first last limit t g =>
    bufferForward b (id first) (id last) limit (type t) (flags g)
  | all first last limit additional => all (id first) (id last) limit additional
  | allFiltered first last limit additional t g =>
    allFiltered (id first) (id last) limit additional (type t) (flags g)

def bounds : BacklogRequest → List MsgId
  | buffer _ first last .. | bufferFiltered _ first last .. | bufferForward _ first last ..
  | all first last .. | allFiltered first last .. => [first, last]

def filter? : BacklogRequest → Option (MessageType × MessageFlag)
  | bufferFiltered _ _ _ _ _ type flags | bufferForward _ _ _ _ type flags
  | allFiltered _ _ _ _ type flags => some (type, flags)
  | buffer .. | all .. => none

variable (id : MsgId → MsgId) (type : MessageType → MessageType) (flags : MessageFlag → MessageFlag)

theorem receiveSlot_map (r : BacklogRequest) : (r.map id type flags).receiveSlot = r.receiveSlot := by
  cases r <;> rfl

theorem map_map (id' : MsgId → MsgId) (type' : MessageType → MessageType)
    (flags' : MessageFlag → MessageFlag) (r : BacklogRequest) :
    (r.map id type flags).map id' type' flags' =
      r.map (id' ∘ id) (type' ∘ type) (flags' ∘ flags) := by
  cases r <;> rfl

theorem map_eq_self_iff (r : BacklogRequest) :
    r.map id type flags = r ↔ (∀ bound ∈ r.bounds, id bound = bound) ∧
      ∀ filter ∈ r.filter?, type filter.1 = filter.1 ∧ flags filter.2 = filter.2 := by
  cases r <;> simp [map, bounds, filter?, and_assoc]

/-- The parameters are numbers and ids. -/
theorem params_cases (r : BacklogRequest) {v : Value} (member : v ∈ r.params) :
    (∃ n, v = .int n) ∨ (∃ id, v = .bufferId id) ∨ ∃ id, v = .msgId id := by
  suffices ∀ v ∈ r.params, (∃ n, v = .int n) ∨ (∃ id, v = .bufferId id) ∨ ∃ id, v = .msgId id from
    this v member
  cases r <;> simp [params, typeParam, flagsParam]

/-- Of the parameters, the wire changes the message ids only. -/
theorem params_normalize (f : FeatureSet) (r : BacklogRequest) :
    r.params.map (Value.normalize f) = (r.map (MsgId.normalize f) (·) (·)).params := by
  cases r <;> simp [params, map, Value.normalize, typeParam, flagsParam]

theorem truncate_typeParam (type : MessageType) :
    Flags.truncate (Int32.ofBitVec type.bits).toBitVec = type.normalize := by
  rw [Int32.toBitVec_ofBitVec, Flags.normalize]

theorem truncate_flagsParam (flags : MessageFlag) :
    Flags.truncate ((Int32.ofNat flags.toNat).toBitVec.truncate 8) = flags.normalize := by
  show Flags.truncate ((BitVec.ofNat 32 flags.bits.toNat).setWidth 8) = _
  rw [BitVec.setWidth_ofNat_of_le (by decide), BitVec.ofNat_toNat, BitVec.setWidth_eq, Flags.normalize]

/-- What is read out of a reply that repeats the parameters of a request: the request, of whose filters
the bits with a meaning are left, and the list behind the parameters, whatever stands behind that. -/
theorem ofReply_params (r : BacklogRequest) (entries extra : List Value) :
    ofReply r.receiveSlot (r.params ++ .list entries :: extra) =
      .ok (r.map (·) Flags.normalize Flags.normalize, entries) := by
  have rest : Value.list? (.list entries) = some entries := Value.listOf?_some entries
  -- the places of the parameters are those of the fields, in each of the five layouts
  cases r <;>
    simp only [ofReply, receiveSlot, params, typeAt, flagsAt, typeParam, flagsParam, Value.param,
      List.cons_append, List.nil_append, List.getElem?_cons_zero, List.getElem?_cons_succ,
      Option.bind_some, Value.int?, Value.msgId?, Value.bufferId?, rest, bind_pure_comp,
      map, ← truncate_typeParam, ← truncate_flagsParam] <;>
    rfl

/-- The ids between which messages are asked for fit their fields, and the filters have no bits without
a meaning. -/
structure Repeatable (f : FeatureSet) (r : BacklogRequest) : Prop where
  bounds : ∀ id ∈ r.bounds, f.has .longMessageId = true ∨
    -2147483648 ≤ id.id.toInt ∧ id.id.toInt ≤ 2147483647
  filter : ∀ filter ∈ r.filter?, Flags.all.contains filter.1 = true ∧
    Flags.all.contains filter.2 = true

/-- The request as it is read out of a reply that repeats what was read of it. -/
def repeated (f : FeatureSet) : BacklogRequest → BacklogRequest :=
  map (MsgId.normalize f) Flags.normalize Flags.normalize

theorem repeated_eq_self_iff (f : FeatureSet) (r : BacklogRequest) :
    r.repeated f = r ↔ r.Repeatable f := by
  rw [repeated, map_eq_self_iff]
  simp only [MsgId.normalize_eq_self_iff, Flags.normalize_eq_self_iff]
  exact ⟨fun ⟨bounds, filter⟩ => ⟨bounds, filter⟩, fun ⟨bounds, filter⟩ => ⟨bounds, filter⟩⟩

theorem ofReply_normalize (f : FeatureSet) (r : BacklogRequest) (entries : List Value) :
    ofReply r.receiveSlot (r.params.map (Value.normalize f) ++ [.list entries]) =
      .ok (r.repeated f, entries) := by
  have slot := receiveSlot_map (MsgId.normalize f) (·) (·) r
  rw [params_normalize, ← slot, ofReply_params, map_map]
  rfl

end BacklogRequest
end Datastream
