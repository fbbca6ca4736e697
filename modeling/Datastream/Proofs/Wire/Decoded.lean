import Datastream.Proofs.Wire.Carried
import Datastream.Proofs.Wire.Yields

/-!
# What was decoded

A decoded value is `Decoded`: its types are known, its maps are in order, it is in normal form and no
higher than the levels that were open, and everything in it fits if it was read from few enough bytes.
The proof goes up the levels, from the values inside a payload to the payload (`yields_payload`) and
from there to the box around it (`yields_box`).

So what was decoded is something that can be written again, and it is read back as itself, though not
always from the same bytes.
-/
namespace Datastream

open Wire

/-- A value that the wire carries as it is, whatever the features, in a few bytes of its own. -/
def Value.isWord : Value → Bool
  | string _ | stringList _ | bytes _ | time _ | dateTime _ => false
  | msgId _ | bufferInfo _ | message _ => false
  | list _ | map _ | boxed _ | record _ _ => false
  | _ => true

/-- A value read from `n` bytes as the payload of a type, as far as it goes by itself; `Inside` holds
of what is inside it. -/
structure Received (f : FeatureSet) (Inside : Nat → Value → Prop) (tag : Tag) (n : Nat) (v : Value) :
    Prop where
  tag_eq : v.tag = tag
  inOrder : v.keysInOrder = true
  honest : v.offsetIsHonest = true
  normal : (∀ child ∈ v.children, child.IsNormal f) → v.IsNormal f
  fits : 3 * n ≤ maxLength → v.ownFits f
  inside : ∀ child ∈ v.children, Inside n child

/-- A value read from `n` bytes by a reader that could open so many levels. -/
structure Decoded (r : Registry) (f : FeatureSet) (levels n : Nat) (v : Value) : Prop where
  known : ∀ part ∈ v.parts, r.knows part.tag = true
  wellFormed : v.WellFormed
  honest : v.HasHonestOffsets
  normal : v.IsNormal f
  height_lt : v.height < levels
  fits : 3 * n ≤ maxLength → v.Fits f
  paid : 0 < n

section Payloads

variable {f : FeatureSet} {Inside : Nat → Value → Prop} {tag : Tag} {m n : Nat} {v : Value}

namespace Received

/-- A value with nothing inside. -/
theorem leaf (tag_eq : v.tag = tag) (alone : v.children = []) (inOrder : v.keysInOrder = true)
    (honest : v.offsetIsHonest = true) (normal : v.IsNormal f)
    (fits : 3 * n ≤ maxLength → v.ownFits f) : Received f Inside tag n v where
  tag_eq := tag_eq
  inOrder := inOrder
  honest := honest
  normal _ := normal
  fits := fits
  inside := by simp [alone]

theorem word (tag_eq : v.tag = tag) (isWord : v.isWord = true) : Received f Inside tag n v := by
  cases v <;> first
    | exact .leaf tag_eq rfl rfl rfl rfl fun _ => trivial
    | cases isWord

theorem mono (more : m ≤ n) (widen : ∀ {child}, Inside m child → Inside n child)
    (received : Received f Inside tag m v) : Received f Inside tag n v where
  tag_eq := received.tag_eq
  inOrder := received.inOrder
  honest := received.honest
  normal := received.normal
  fits small := received.fits (by omega)
  inside child member := widen (received.inside child member)

/-- A map and a record differ in nothing but their types. -/
theorem entries {fields : Fields} (sorted : fields.Sorted) (few : fields.length ≤ n)
    (read : ∀ e ∈ fields, (Utf16.encode e.1).length * 2 ≤ n ∧ Inside n e.2) :
    Received f Inside (.plain .map) n (.map fields) ∧
      ∀ type, Received f Inside (.named (.record type)) n (.record type fields) := by
  have within : ∀ v ∈ fields.map (·.2), Inside n v :=
    List.forall_mem_map.mpr fun e member => (read e member).2
  have fit : 3 * n ≤ maxLength → fields.length ≤ maxLength ∧ ∀ e ∈ fields, Utf16Fits (some e.1) := by
    intro small
    constructor
    · omega
    · intro e member text same
      obtain rfl := Option.mem_some.mp same
      exact Nat.le_trans (read e member).1 (by omega)
  have same : (∀ v ∈ fields.map (·.2), v.IsNormal f) → Value.normalizeFields f fields = fields :=
    (Value.normalizeFields_eq_self_iff fields).mpr
  constructor
  · refine ⟨rfl, decide_eq_true sorted, rfl, ?_, fit, within⟩
    intro normal
    exact congrArg Value.map (same normal)
  · intro type
    refine ⟨rfl, decide_eq_true sorted, rfl, ?_, fit, within⟩
    intro normal
    exact congrArg (Value.record type) (same normal)

end Received

namespace Wire

section Containers

variable {box : Reader Value} (inside : Yields box Inside)
  (mono : ∀ {m n v}, m ≤ n → Inside m v → Inside n v) (paid : ∀ {n v}, Inside n v → 0 < n)

include inside mono paid

theorem yields_list :
    Yields (readList box) fun n items => items.length ≤ n ∧ ∀ v ∈ items, Inside n v := by
  refine delimited_count.yields.bind fun m count _ => (inside.times mono paid count).weaken ?_
  intro n items read
  exact ⟨by omega, fun v member => mono (by omega) (read.2 v member)⟩

/-- Keys that come again take away entries, and add none. -/
theorem yields_fields : Yields (readFields box) fun n fields => fields.Sorted ∧ fields.length ≤ n ∧
    ∀ e ∈ fields, (Utf16.encode e.1).length * 2 ≤ n ∧ Inside n e.2 := by
  have entry : Yields (readEntry box) fun n e => (Utf16.encode e.1).length * 2 ≤ n ∧ Inside n e.2 := by
    refine yields_utf16.bind fun m key key_le => inside.bind_pure fun n v there => ?_
    refine ⟨?_, mono (by omega) there⟩
    cases key with
    | none => exact Nat.zero_le _
    | some key => exact Nat.le_trans (key_le.2 key rfl) (Nat.le_add_right m n)
  refine delimited_count.yields.bind fun m count _ => (entry.times ?_ ?_ count).map ?_
  · intro m n e more read
    exact ⟨by omega, mono more read.2⟩
  · intro n e read
    exact paid read.2
  · intro n pairs read
    refine ⟨Fields.sorted_ofPairs pairs, ?_, fun e member => ?_⟩
    · have fewer := Fields.length_ofPairs_le pairs
      omega
    · have pair := read.2 e (Fields.mem_of_mem_ofPairs member)
      exact ⟨by omega, mono (by omega) pair.2⟩

/-- A payload is what its type says, whatever reads the values inside. -/
theorem yields_payload (tag : Tag) : Yields (readPayload f box tag) (Received f Inside tag) := by
  have list := yields_list inside mono paid
  have fields := yields_fields inside mono paid
  cases tag with
  | plain type =>
    cases type with
    | void => exact .pure (.word rfl rfl)
    | bool => exact delimited_bool.yields.map fun _ _ _ => .word rfl rfl
    | char => exact delimited_int8.yields.map fun _ _ _ => .word rfl rfl
    | uchar => exact delimited_uint8.yields.map fun _ _ _ => .word rfl rfl
    | short => exact delimited_int16.yields.map fun _ _ _ => .word rfl rfl
    | ushort => exact delimited_uint16.yields.map fun _ _ _ => .word rfl rfl
    | int => exact delimited_int32.yields.map fun _ _ _ => .word rfl rfl
    | uint => exact delimited_uint32.yields.map fun _ _ _ => .word rfl rfl
    | long => exact delimited_int64.yields.map fun _ _ _ => .word rfl rfl
    | ulong => exact delimited_uint64.yields.map fun _ _ _ => .word rfl rfl
    | float => exact delimited_uint32.yields.map fun _ _ _ => .word rfl rfl
    | double => exact delimited_uint64.yields.map fun _ _ _ => .word rfl rfl
    | char16 => exact delimited_uint16.yields.map fun _ _ _ => .word rfl rfl
    | uuid => exact delimited_uuid.yields.map fun _ _ _ => .word rfl rfl
    | date => exact delimited_date.yields.map fun _ _ _ => .word rfl rfl
    | string =>
      refine yields_utf16.map fun n s read => .leaf rfl rfl rfl rfl rfl fun small text member => ?_
      have length := read.2 text member
      omega
    | stringList =>
      refine delimited_count.yields.bind fun m count _ => (yields_utf16.times ?_ ?_ count).bind_pure ?_
      · intro m n s more read
        exact ⟨by omega, fun text member => Nat.le_trans (read.2 text member) more⟩
      · intro n s read
        exact read.1
      · intro n items read
        refine .leaf rfl rfl rfl rfl rfl fun small => ⟨by omega, fun s member text there => ?_⟩
        have length := (read.2 s member).2 text there
        omega
    | bytes =>
      refine yields_bytes.map fun n b read => .leaf rfl rfl rfl rfl rfl fun small x member => ?_
      have length := read x member
      omega
    | time =>
      exact yields_time.map fun n t read =>
        .leaf rfl rfl rfl rfl (congrArg Value.time read) fun _ => trivial
    | dateTime =>
      refine yields_dateTime.map fun n t read =>
        .leaf rfl rfl rfl ?_ (congrArg Value.dateTime read.1) fun _ => trivial
      cases t with
      | unanchored reading spec =>
        cases spec with
        | offsetFromUtc => exact absurd rfl (read.2 reading)
        | _ => rfl
      | _ => rfl
    | list =>
      refine list.map fun n items read =>
        ⟨rfl, rfl, rfl, (Value.isNormal_items_iff items).mpr, ?_, read.2⟩
      intro small
      exact Nat.le_trans read.1 (by omega)
    | map => exact fields.map fun n entries read => (Received.entries read.1 read.2.1 read.2.2).1
    | boxed =>
      refine inside.map fun n v there => ⟨rfl, rfl, rfl, ?_, fun _ => trivial, ?_⟩
      · intro normal
        exact congrArg Value.boxed (normal v List.mem_cons_self)
      · intro child member
        rw [Value.children, List.mem_singleton] at member
        exact member ▸ there
    | userType => exact .fail _
  | named type =>
    cases type with
    | bufferId | networkId | identityId => exact delimited_int32.yields.map fun _ _ _ => .word rfl rfl
    | msgId =>
      exact (yields_msgId f).map fun n id read =>
        .leaf rfl rfl rfl rfl (congrArg Value.msgId read) fun _ => trivial
    | bufferInfo =>
      refine yields_bufferInfo.map fun n info read =>
        .leaf rfl rfl rfl rfl (congrArg Value.bufferInfo read.1) fun small text member => ?_
      exact Nat.le_trans (read.2 text member) small
    | message =>
      exact (yields_message f).map fun n m read =>
        .leaf rfl rfl rfl rfl (congrArg Value.message read.1) read.2
    | hostAddress => exact delimited_hostAddress.yields.map fun _ _ _ => .word rfl rfl
    | peerPtr => exact delimited_uint64.yields.map fun _ _ _ => .word rfl rfl
    | dccIpDetection | dccPortSelection => exact delimited_uint8.yields.map fun _ _ _ => .word rfl rfl
    | record type =>
      exact fields.map fun n entries read => (Received.entries read.1 read.2.1 read.2.2).2 type

end Containers

end Wire
end Payloads

section Boxes

variable {r : Registry} {f : FeatureSet} {levels m n : Nat} {v : Value}

namespace Decoded

theorem mono (more : m ≤ n) (decoded : Decoded r f levels m v) : Decoded r f levels n v where
  known := decoded.known
  wellFormed := decoded.wellFormed
  honest := decoded.honest
  normal := decoded.normal
  height_lt := decoded.height_lt
  fits small := decoded.fits (by omega)
  paid := Nat.lt_of_lt_of_le decoded.paid more

/-- A box around a payload in which everything was decoded, one level up. -/
theorem of_received {tag : Tag} (known : r.knows tag = true) (paid : 0 < n)
    (received : Received f (Decoded r f levels) tag n v) : Decoded r f (levels + 1) n v where
  known := (Value.forall_parts_iff v).mpr
    ⟨received.tag_eq ▸ known, fun child member => (received.inside child member).known⟩
  wellFormed := (Value.forall_parts_iff v).mpr
    ⟨received.inOrder, fun child member => (received.inside child member).wellFormed⟩
  honest := (Value.forall_parts_iff v).mpr
    ⟨received.honest, fun child member => (received.inside child member).honest⟩
  normal := received.normal fun child member => (received.inside child member).normal
  height_lt := Nat.lt_succ_of_le <| (Value.height_le_iff v levels).mpr fun child member =>
    (received.inside child member).height_lt
  fits small := (Value.forall_parts_iff v).mpr
    ⟨received.fits small, fun child member => (received.inside child member).fits small⟩
  paid := paid

theorem carried (decoded : Decoded r f (levels + 1) n v) : v.Carried f levels where
  wellFormed := decoded.wellFormed
  honest := decoded.honest
  normal := decoded.normal
  height_le := Nat.le_of_lt_succ decoded.height_lt

/-- What was decoded from few enough bytes can be written. -/
theorem stop_encode (decoded : Decoded r f levels n v) (small : 3 * n ≤ maxLength) :
    (v.encode r f).stop = none :=
  (Wire.stop_encode r f v).mpr fun part member =>
    ⟨decoded.known part member, decoded.fits small part member⟩

/-- What was decoded is read back as itself. -/
theorem readBy (decoded : Decoded r f levels n v) : (v.encode r f).ReadBy (readBox f r levels) v := by
  have read := readBy_encode r f v decoded.height_lt decoded.wellFormed decoded.honest
    decoded.normal.hasOrdinaryInstants
  rwa [decoded.normal] at read

end Decoded

namespace Wire

/-- A type and the byte behind it are five bytes, more with a name. -/
theorem yields_tag (r : Registry) : Yields (readTag r) fun n tag => 5 ≤ n ∧ r.knows tag = true := by
  refine yields_int32.bind fun a id four => yields_bool.bind fun b _ one => .ite ?_ ?_
  · intro _
    refine delimited_typeName.yields.bind fun c name _ => ?_
    split
    · exact .fail _
    · split
      · exact .ite (fun known => .pure ⟨by omega, known⟩) fun _ => .fail _
      · exact .fail _
  · intro _
    split
    · exact .ite (fun known => .pure ⟨by omega, known⟩) fun _ => .fail _
    · exact .fail _

/-- Every level that is opened is one of the value's height. -/
theorem yields_box (r : Registry) (f : FeatureSet) (levels : Nat) :
    Yields (readBox f r levels) (Decoded r f levels) := by
  induction levels with
  | zero => exact .fail _
  | succ levels ih =>
    refine (yields_tag r).bind fun m tag header => ?_
    refine (yields_payload ih Decoded.mono Decoded.paid tag).weaken fun n v received => ?_
    exact .of_received header.2 (by omega) (received.mono (by omega) (Decoded.mono (by omega)))

end Wire
end Boxes
end Datastream
