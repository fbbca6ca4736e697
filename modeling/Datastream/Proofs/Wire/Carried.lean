import Datastream.Proofs.Wire.Boxed

/-!
# What the wire carries as it is

A `Carried` value is read back as itself: it is its own normal form, claims no offset that it does not
have, and is no higher than the levels that the reader may open. Lists and maps of carried values are
carried, one level up. Values without ids and times of messages are `Plain`: they are written, and
normalized, alike under all features.
-/
namespace Datastream.Value

variable {f : FeatureSet} {levels : Nat} {v : Value}

/-- The value is carried as it is to a reader that may open so many levels inside it. -/
structure Carried (f : FeatureSet) (levels : Nat) (v : Value) : Prop where
  wellFormed : v.WellFormed
  honest : v.HasHonestOffsets
  normal : v.IsNormal f
  height_le : v.height ≤ levels

theorem isNormal_items_iff (items : List Value) :
    (list items).IsNormal f ↔ ∀ v ∈ items, v.IsNormal f := by
  have same := List.map_inj_left (l := items) (f := normalize f) (g := id)
  rw [List.map_id] at same
  rw [IsNormal, normalize, normalizeItems_eq_map, list.injEq, same]
  rfl

theorem normalizeFields_eq_self_iff (fields : Fields) :
    normalizeFields f fields = fields ↔ ∀ v ∈ fields.map (·.2), v.IsNormal f := by
  have same := List.map_inj_left (l := fields) (f := fun e => (e.1, normalize f e.2)) (g := id)
  rw [List.map_id] at same
  rw [normalizeFields_eq_map, same, List.forall_mem_map]
  exact forall₂_congr fun e _ => ⟨fun h => (Prod.mk.inj h).2, fun h => Prod.ext rfl h⟩

/-- What is inside a value in normal form is in normal form. -/
theorem IsNormal.child (normal : v.IsNormal f) {child : Value} (member : child ∈ v.children) :
    child.IsNormal f := by
  cases v with
  | list items => exact (isNormal_items_iff items).mp normal child member
  | map fields =>
    rw [IsNormal, normalize, map.injEq] at normal
    exact (normalizeFields_eq_self_iff fields).mp normal child member
  | record type fields =>
    rw [IsNormal, normalize, record.injEq] at normal
    exact (normalizeFields_eq_self_iff fields).mp normal.2 child member
  | boxed inner =>
    rw [IsNormal, normalize, boxed.injEq] at normal
    rw [children, List.mem_singleton] at member
    exact member ▸ normal
  | _ => cases member

/-- Whole milliseconds and seconds are no leap seconds. -/
theorem IsNormal.hasOrdinaryInstants (normal : v.IsNormal f) : v.HasOrdinaryInstants := by
  induction v using induction_on_children with
  | step v ih =>
    refine (forall_parts_iff v).mpr ⟨?_, fun child member => ih child member (normal.child member)⟩
    cases v with
    | message m =>
      have time := congrArg (fun m => m.time.time.nanos) (message.inj normal)
      refine decide_eq_true ?_
      rw [← time]
      dsimp only [Message.normalize]
      split
      · dsimp only [Reading.wholeMillis, TimeOfDay.wholeMillis]
        omega
      · exact Nat.zero_lt_succ _
    | _ => rfl

theorem Carried.of_children (inOrder : v.keysInOrder = true) (honest : v.offsetIsHonest = true)
    (normal : v.IsNormal f) (inside : ∀ child ∈ v.children, child.Carried f levels) :
    v.Carried f (levels + 1) where
  wellFormed := (forall_parts_iff v).mpr
    ⟨inOrder, fun child member => (inside child member).wellFormed⟩
  honest := (forall_parts_iff v).mpr ⟨honest, fun child member => (inside child member).honest⟩
  normal := normal
  height_le := (height_le_iff v _).mpr fun child member =>
    Nat.lt_succ_of_le (inside child member).height_le

/-- A value with nothing inside. -/
theorem Carried.leaf (alone : v.children = []) (inOrder : v.keysInOrder = true)
    (honest : v.offsetIsHonest = true) (normal : v.IsNormal f) : v.Carried f levels where
  wellFormed := (forall_parts_iff v).mpr ⟨inOrder, by simp [alone]⟩
  honest := (forall_parts_iff v).mpr ⟨honest, by simp [alone]⟩
  normal := normal
  height_le := (height_le_iff v _).mpr (by simp [alone])

theorem Carried.name (name : String) : (ofName name).Carried f levels := .leaf rfl rfl rfl rfl

theorem Carried.items {items : List Value} (inside : ∀ v ∈ items, v.Carried f levels) :
    (list items).Carried f (levels + 1) :=
  .of_children rfl rfl ((isNormal_items_iff items).mpr fun v member => (inside v member).normal) inside

theorem Carried.fields {fields : Fields} (sorted : fields.Sorted)
    (inside : ∀ v ∈ fields.map (·.2), v.Carried f levels) :
    (map fields).Carried f (levels + 1) := by
  have normal : (map fields).IsNormal f := by
    rw [IsNormal, normalize, map.injEq, normalizeFields_eq_self_iff]
    exact fun v member => (inside v member).normal
  exact .of_children (decide_eq_true sorted) rfl normal inside

theorem Carried.readBy (r : Registry) (carried : v.Carried f 64) :
    (v.encode r f).ReadBy (decode r f) v := by
  have read := Wire.readBy_encode r f v (Nat.lt_succ_of_le carried.height_le) carried.wellFormed
    carried.honest carried.normal.hasOrdinaryInstants
  rwa [carried.normal] at read

theorem readBy_encodeList (r : Registry) {items : List Value}
    (carried : ∀ v ∈ items, v.Carried f 64) : (encodeList r f items).ReadBy (decodeList r f) items := by
  have each : List.Forall₂ (fun v value => (v.encode r f).ReadBy (decode r f) value) items items :=
    List.forall₂_same.mpr fun v member => (carried v member).readBy r
  exact Wire.readBy_items r f each

/-- A list of carried values is read to the end of what was written. -/
theorem decodeList_of_encodeList {r : Registry} {items : List Value} {b : Bytes}
    (carried : ∀ v ∈ items, v.Carried f 64) (written : (encodeList r f items).toExcept = .ok b) :
    decodeList r f b = .ok items [] := by
  obtain ⟨unstopped, rfl⟩ := (Output.toExcept_eq_ok_iff _ _).mp written
  have read := readBy_encodeList r carried unstopped []
  rwa [List.append_nil] at read

def ownPlain : Value → Bool
  | msgId _ => false
  | message _ => false
  | _ => true

/-- No id of a message and no message is inside. -/
def Plain (v : Value) : Prop := ∀ part ∈ v.parts, part.ownPlain = true

instance (v : Value) : Decidable v.Plain :=
  inferInstanceAs (Decidable (∀ part ∈ v.parts, part.ownPlain = true))

theorem normalizeFields_congr {g : FeatureSet} {fields : Fields}
    (same : ∀ v ∈ fields.map (·.2), v.normalize f = v.normalize g) :
    normalizeFields f fields = normalizeFields g fields := by
  rw [normalizeFields_eq_map, normalizeFields_eq_map]
  exact List.map_congr_left fun e member => Prod.ext rfl (same e.2 (List.mem_map_of_mem member))

theorem normalize_congr (plain : v.Plain) (f g : FeatureSet) : v.normalize f = v.normalize g := by
  induction v using induction_on_children with
  | step v ih =>
    obtain ⟨own, inside⟩ := (forall_parts_iff v).mp plain
    have same : ∀ child ∈ v.children, child.normalize f = child.normalize g :=
      fun child member => ih child member (inside child member)
    cases v with
    | list items =>
      rw [normalize, normalize, normalizeItems_eq_map, normalizeItems_eq_map]
      exact congrArg list (List.map_congr_left same)
    | map fields => rw [normalize, normalize, normalizeFields_congr same]
    | record type fields => rw [normalize, normalize, normalizeFields_congr same]
    | boxed inner => rw [normalize, normalize, same inner List.mem_cons_self]
    | msgId id => cases own
    | message m => cases own
    | _ => rfl

theorem boxes_congr {g : FeatureSet} {r : Registry} (items : List Value)
    (same : ∀ v ∈ items, v.encode r f = v.encode r g) :
    Wire.boxes r f items = Wire.boxes r g items := by
  rw [Wire.boxes_eq_each, Wire.boxes_eq_each, Output.each_congr same]

theorem entries_congr {g : FeatureSet} {r : Registry} {fields : Fields}
    (same : ∀ v ∈ fields.map (·.2), v.encode r f = v.encode r g) :
    Wire.entries r f fields = Wire.entries r g fields := by
  rw [Wire.entries_eq_each, Wire.entries_eq_each]
  refine Output.each_congr fun e member => ?_
  rw [Wire.entry, Wire.entry, same e.2 (List.mem_map_of_mem member)]

theorem encode_congr (r : Registry) (plain : v.Plain) (f g : FeatureSet) :
    v.encode r f = v.encode r g := by
  induction v using induction_on_children with
  | step v ih =>
    obtain ⟨own, inside⟩ := (forall_parts_iff v).mp plain
    have same : ∀ child ∈ v.children, child.encode r f = child.encode r g :=
      fun child member => ih child member (inside child member)
    have payload : Wire.payload r f v = Wire.payload r g v := by
      cases v with
      | list items => rw [Wire.payload, Wire.payload, boxes_congr items same]
      | map fields => rw [Wire.payload, Wire.payload, entries_congr same]
      | record type fields => rw [Wire.payload, Wire.payload, entries_congr same]
      | boxed inner =>
        rw [Wire.payload, Wire.payload]
        exact same inner List.mem_cons_self
      | msgId id => cases own
      | message m => cases own
      | _ => simp only [Wire.payload]
    rw [encode_eq, encode_eq, payload]

theorem encodeList_congr (r : Registry) {items : List Value} (plain : ∀ v ∈ items, v.Plain)
    (f g : FeatureSet) : encodeList r f items = encodeList r g items := by
  rw [encodeList, encodeList, boxes_congr items fun v member => encode_congr r (plain v member) f g]

/-- Carried as it is, and written alike under all features. -/
structure Portable (f : FeatureSet) (levels : Nat) (v : Value) : Prop extends Carried f levels v where
  plain : v.Plain

theorem Portable.leaf (alone : v.children = []) (inOrder : v.keysInOrder = true)
    (honest : v.offsetIsHonest = true) (plain : v.ownPlain = true) (normal : v.IsNormal f) :
    v.Portable f levels where
  toCarried := .leaf alone inOrder honest normal
  plain := (forall_parts_iff v).mpr ⟨plain, by simp [alone]⟩

theorem Portable.items {items : List Value} (inside : ∀ v ∈ items, v.Portable f levels) :
    (list items).Portable f (levels + 1) where
  toCarried := .items fun v member => (inside v member).toCarried
  plain := (forall_parts_iff _).mpr ⟨rfl, fun v member => (inside v member).plain⟩

theorem Portable.fields {fields : Fields} (sorted : fields.Sorted)
    (inside : ∀ entry ∈ fields, entry.2.Portable f levels) :
    (map fields).Portable f (levels + 1) := by
  have values : ∀ v ∈ fields.map (·.2), v.Portable f levels := List.forall_mem_map.mpr inside
  exact {
    toCarried := .fields sorted fun v member => (values v member).toCarried
    plain := (forall_parts_iff _).mpr ⟨rfl, fun v member => (values v member).plain⟩ }

theorem Portable.change (portable : v.Portable f levels) (g : FeatureSet) : v.Portable g levels where
  wellFormed := portable.wellFormed
  honest := portable.honest
  normal := (normalize_congr portable.plain g f).trans portable.normal
  height_le := portable.height_le
  plain := portable.plain

end Datastream.Value
