import Datastream.Proofs.Wire.Entries
import Datastream.Proofs.Wire.Record

/-!
# Boxed values round trip

`decode_encoded_append`: whatever a registry lets a value be written as is read back, with the same
registry and features and with anything behind it, as the value's normal form.

The reader may open one level for every level of height. So the induction is on the height, and a
payload is read back once the boxes inside it are, whatever it is that reads those.
-/
namespace Datastream

namespace Wire

open Output (ReadBy)

variable (r : Registry) (f : FeatureSet)

theorem stringList_eq_each (items : List (Option String)) :
    stringList items = Output.each utf16 items := by
  induction items with
  | nil => rfl
  | cons s rest ih => rw [stringList, ih]; rfl

theorem boxes_eq_each (items : List Value) :
    boxes r f items = Output.each (Value.encode r f) items := by
  induction items with
  | nil => rw [boxes]; rfl
  | cons v rest ih => rw [boxes, ih]; rfl

def entry (e : String × Value) : Output := utf16 (some e.1) ++ e.2.encode r f

theorem entries_eq_each (fields : Fields) : entries r f fields = Output.each (entry r f) fields := by
  induction fields with
  | nil => rw [entries]; rfl
  | cons e rest ih => rw [entries, ih]; rfl

/-- A list is read once each of its items is, whatever it comes back as. -/
theorem readBy_items {box : Reader Value} {items values : List Value}
    (inside : List.Forall₂ (fun v value => (v.encode r f).ReadBy box value) items values) :
    (count items.length ++ boxes r f items).ReadBy (readList box) values := by
  rw [boxes_eq_each]
  exact (readBy_count items.length).bind (ReadBy.times_forall₂ inside)

theorem readBy_list {box : Reader Value} (items : List Value)
    (inside : ∀ v ∈ items, (v.encode r f).ReadBy box (v.normalize f)) :
    (count items.length ++ boxes r f items).ReadBy (readList box) (items.map (Value.normalize f)) :=
  readBy_items r f (List.forall₂_map_right_iff.mpr (List.forall₂_same.mpr inside))

theorem readBy_entry {box : Reader Value} (e : String × Value)
    (inside : (e.2.encode r f).ReadBy box (e.2.normalize f)) :
    (entry r f e).ReadBy (readEntry box) (e.1, e.2.normalize f) :=
  (readBy_utf16 (some e.1)).bind (inside.bind_pure rfl)

/-- The entries come in order, so that putting them into a map one by one changes nothing. -/
theorem readBy_fields {box : Reader Value} {fields : Fields} (sorted : fields.Sorted)
    (inside : ∀ v ∈ fields.map (·.2), (v.encode r f).ReadBy box (v.normalize f)) :
    (count fields.length ++ entries r f fields).ReadBy (readFields box)
      (fields.map fun e => (e.1, e.2.normalize f)) := by
  have entrywise : ∀ e ∈ fields, (entry r f e).ReadBy (readEntry box) (e.1, e.2.normalize f) :=
    fun e member => readBy_entry r f e (inside e.2 (List.mem_map_of_mem member))
  have pairs := (ReadBy.times _ fields entrywise).map Fields.ofPairs
  rw [Fields.ofPairs_of_sorted (Fields.sorted_map _ sorted)] at pairs
  rw [entries_eq_each]
  exact (readBy_count fields.length).bind pairs

/-- The bare marker apart, which no value has for its type. -/
theorem readBy_tag (tag : Tag) (proper : tag ≠ .plain .userType) :
    (boxHeader r tag).ReadBy (readTag r) tag := by
  unfold boxHeader withEntry
  cases known : r.knows tag with
  | false =>
    rw [Registry.lookup, known]
    exact ReadBy.fail _
  | true =>
    rw [(r.lookup_eq_ok_iff tag).mpr known]
    simp only [header, Output.write_append, Output.append_assoc]
    refine (ReadBy.write (reads_int32 _)).bind ((ReadBy.write (reads_bool false)).bind ?_)
    cases tag with
    | plain type =>
      have own : type.id ≠ PlainType.userType.id := by
        cases type <;> first | decide | exact absurd rfl proper
      simp only [Tag.plainType, if_neg own, PlainType.ofId_id, known, if_true]
      exact ReadBy.pure _
    | named type =>
      simp only [Tag.plainType, if_true]
      refine (readBy_typeName type.name).bind_pure ?_
      simp only [NamedType.ofName_name, known, if_true]

/-- A payload is read as soon as the values inside are, by whatever reads those. -/
theorem readBy_payload {box : Reader Value} (v : Value) (inOrder : v.keysInOrder = true)
    (honest : v.offsetIsHonest = true) (ordinary : v.instantIsOrdinary = true)
    (inside : ∀ child ∈ v.children, (child.encode r f).ReadBy box (child.normalize f)) :
    (payload r f v).ReadBy (readPayload f box v.tag) (v.normalize f) := by
  cases v <;> simp only [payload, Value.tag, readPayload, Value.normalize]
  case void => exact ReadBy.pure _
  case bool b => exact ReadBy.write ((reads_bool b).map Value.bool)
  case char n => exact ReadBy.write ((reads_int8 n).map Value.char)
  case uchar n => exact ReadBy.write ((reads_uint8 n).map Value.uchar)
  case short n => exact ReadBy.write ((reads_int16 n).map Value.short)
  case ushort n => exact ReadBy.write ((reads_uint16 n).map Value.ushort)
  case int n => exact ReadBy.write ((reads_int32 n).map Value.int)
  case uint n => exact ReadBy.write ((reads_uint32 n).map Value.uint)
  case long n => exact ReadBy.write ((reads_int64 n).map Value.long)
  case ulong n => exact ReadBy.write ((reads_uint64 n).map Value.ulong)
  case float bits => exact ReadBy.write ((reads_uint32 bits).map Value.float)
  case double bits => exact ReadBy.write ((reads_uint64 bits).map Value.double)
  case char16 unit => exact ReadBy.write ((reads_uint16 unit).map Value.char16)
  case string s => exact (readBy_utf16 s).map Value.string
  case stringList items =>
    have texts := ReadBy.times id items fun s _ => readBy_utf16 s
    rw [List.map_id] at texts
    rw [stringList_eq_each]
    exact (readBy_count items.length).bind (texts.map Value.stringList)
  case bytes b => exact (readBy_bytes b).map Value.bytes
  case date d => exact ReadBy.write ((reads_date d).map Value.date)
  case time t => exact ReadBy.write ((reads_time t).map Value.time)
  case dateTime t =>
    have claims : ∀ reading, t ≠ .unanchored reading .offsetFromUtc := by
      rintro reading rfl
      cases honest
    exact ReadBy.write ((reads_dateTime t claims).map Value.dateTime)
  case uuid bits => exact ReadBy.write ((reads_uuid bits).map Value.uuid)
  case list items =>
    rw [Value.normalizeItems_eq_map]
    exact (readBy_list r f items inside).map Value.list
  case map fields =>
    rw [Value.normalizeFields_eq_map]
    exact (readBy_fields r f (of_decide_eq_true inOrder) inside).map Value.map
  case boxed inner => exact (inside inner List.mem_cons_self).map Value.boxed
  case bufferId id => exact ReadBy.write ((reads_int32 id.id).map fun n => Value.bufferId ⟨n⟩)
  case bufferInfo info => exact (readBy_bufferInfo info).map Value.bufferInfo
  case message m =>
    exact (readBy_message f m (of_decide_eq_true ordinary)).map Value.message
  case identityId id => exact ReadBy.write ((reads_int32 id.id).map fun n => Value.identityId ⟨n⟩)
  case networkId id => exact ReadBy.write ((reads_int32 id.id).map fun n => Value.networkId ⟨n⟩)
  case msgId id => exact ReadBy.write ((reads_msgId f id).map Value.msgId)
  case hostAddress address => exact ReadBy.write ((reads_hostAddress address).map Value.hostAddress)
  case peerPtr n => exact ReadBy.write ((reads_uint64 n).map Value.peerPtr)
  case dccIpDetection mode => exact ReadBy.write ((reads_uint8 mode).map Value.dccIpDetection)
  case dccPortSelection mode => exact ReadBy.write ((reads_uint8 mode).map Value.dccPortSelection)
  case record type fields =>
    rw [Value.normalizeFields_eq_map]
    exact (readBy_fields r f (of_decide_eq_true inOrder) inside).map (Value.record type)

/-- A box opens one level for what its payload holds. -/
theorem readBy_box {v value : Value} {levels : Nat}
    (inside : (payload r f v).ReadBy (readPayload f (readBox f r levels) v.tag) value) :
    (v.encode r f).ReadBy (readBox f r (levels + 1)) value := by
  rw [Value.encode_eq]
  exact (readBy_tag r v.tag v.tag_proper).bind inside

/-- A value with nothing inside takes one level. -/
theorem readBy_leaf (v : Value) (alone : v.children = []) (inOrder : v.keysInOrder = true)
    (honest : v.offsetIsHonest = true) (ordinary : v.instantIsOrdinary = true) (levels : Nat) :
    (v.encode r f).ReadBy (readBox f r (levels + 1)) (v.normalize f) := by
  have inside : ∀ child ∈ v.children,
      (child.encode r f).ReadBy (readBox f r levels) (child.normalize f) := by simp [alone]
  exact readBy_box r f (readBy_payload r f v inOrder honest ordinary inside)

/-- One level is opened for the value itself, and one for each level of its height. -/
theorem readBy_encode (v : Value) {levels : Nat} (enough : v.height < levels)
    (wellFormed : v.WellFormed) (honest : v.HasHonestOffsets) (ordinary : v.HasOrdinaryInstants) :
    (v.encode r f).ReadBy (readBox f r levels) (v.normalize f) := by
  induction levels generalizing v with
  | zero => exact absurd enough (Nat.not_lt_zero _)
  | succ levels ih =>
    obtain ⟨inOrder, inOrder_below⟩ := (Value.forall_parts_iff v).mp wellFormed
    obtain ⟨honest, honest_below⟩ := (Value.forall_parts_iff v).mp honest
    obtain ⟨ordinary, ordinary_below⟩ := (Value.forall_parts_iff v).mp ordinary
    have payload := readBy_payload r f v inOrder honest ordinary fun child member =>
      ih child (Nat.lt_of_lt_of_le (Value.height_lt_of_mem_children member) (Nat.le_of_lt_succ enough))
        (inOrder_below child member) (honest_below child member) (ordinary_below child member)
    exact readBy_box r f payload

end Wire

namespace Value

/-- Whatever is written is read back in normal form, and what follows it stays unread. -/
theorem decode_encoded_append (r : Registry) (f : FeatureSet) (v : Value) (wellFormed : v.WellFormed)
    (height_le : v.height ≤ 64) (honest : v.HasHonestOffsets) (ordinary : v.HasOrdinaryInstants)
    {b : Bytes} (written : (v.encode r f).toExcept = .ok b) (rest : Bytes) :
    decode r f (b ++ rest) = .ok (v.normalize f) rest := by
  obtain ⟨unstopped, rfl⟩ := (Output.toExcept_eq_ok_iff _ _).mp written
  exact Wire.readBy_encode r f v (Nat.lt_succ_of_le height_le) wellFormed honest ordinary unstopped rest

/-- A map of a leap second in a list, of a boxed local time that claims to be UTC, and of a long id. -/
def sample : Value :=
  map [("a", list [time ⟨86399, 1999999999, by decide, by decide⟩, string none, bytes (some [])]),
    ("b", boxed (dateTime (.unanchored Reading.epoch .utc))), ("c", msgId ⟨4294967293⟩)]

theorem decode_sample_append :
    decode .standard .none ((sample.encode .standard .none).bytes ++ [7]) =
      .ok (map
        [("a", list [time ⟨86399, 999000000, by decide, by decide⟩, string none, bytes (some [])]),
        ("b", boxed (dateTime (.utc Reading.epoch))), ("c", msgId ⟨-3⟩)]) [7] :=
  decode_encoded_append .standard .none sample (by decide) (by decide) (by decide) (by decide) rfl [7]

end Value
end Datastream
