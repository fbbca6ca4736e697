import Datastream.Proofs.Value.Pairs
import Datastream.Proofs.Wire.Decoded
import Mathlib.Data.List.Flatten

/-!
# Five bytes for each box

A box begins with four bytes of type and one of nothing, so decoding takes five bytes at least for every
value that was in a box, however deep it lies: `yields_box_paid`, by induction on the levels that are
open. A list makes room for its items before it reads any. It does not trust the number that it is given
but makes room for as many boxes as the bytes behind that number can hold, and that is always enough
(`items_le_room`).
-/
namespace Datastream

section Pieces

variable {α β : Type} {read : Reader α} {pieces : α → List β} {rate : Nat}

/-- Items that take `rate` bytes for each of their pieces do so together. `done` holds the items before,
for which `spent` bytes were taken. -/
theorem Yields.times_go_pieces (item : Yields read fun n a => rate * (pieces a).length ≤ n) (n : Nat)
    (done : List α) (spent : Nat) (paid : rate * (done.flatMap pieces).length ≤ spent) :
    Yields (Reader.times.go read n done) fun m items =>
      items.length = done.length + n ∧ rate * (items.flatMap pieces).length ≤ spent + m := by
  induction n generalizing done spent with
  | zero =>
    refine pure ⟨List.length_reverse, ?_⟩
    rw [(done.reverse_perm.flatMap_right pieces).length_eq]
    exact paid
  | succ n ih =>
    refine item.bind fun m a one => ?_
    have more : rate * ((a :: done).flatMap pieces).length ≤ spent + m := by
      rw [List.flatMap_cons, List.length_append, Nat.mul_add]
      omega
    refine (ih (a :: done) (spent + m) more).weaken fun k items all => ⟨?_, ?_⟩
    · rw [all.1, List.length_cons]
      omega
    · rw [← Nat.add_assoc]
      exact all.2

theorem Yields.times_pieces (item : Yields read fun n a => rate * (pieces a).length ≤ n) (n : Nat) :
    Yields (Reader.times n read) fun m items =>
      items.length = n ∧ rate * (items.flatMap pieces).length ≤ m := by
  have all := item.times_go_pieces n [] 0 (Nat.le_refl 0)
  simp only [List.length_nil, Nat.zero_add] at all
  exact all

/-- A map of pairs has no more pieces than the pairs: those that come again take pieces away. -/
theorem Fields.length_flatMap_ofPairs_le (pieces : String × Value → List β)
    (pairs : List (String × Value)) :
    ((ofPairs pairs).flatMap pieces).length ≤ (pairs.flatMap pieces).length := by
  rw [((perm_lastByKey pairs).flatMap_right pieces).length_eq]
  exact ((lastByKey_sublist Prod.fst pairs).flatMap pieces).length_le

end Pieces

def Tag.holdsOthers : Tag → Bool
  | .plain .list | .plain .map | .plain .boxed | .named (.record _) => true
  | _ => false

namespace Value

theorem children_of_tag {v : Value} (alone : v.tag.holdsOthers = false) : v.children = [] := by
  cases v <;> first
    | rfl
    | cases alone

theorem length_parts (v : Value) : v.parts.length = (v.children.flatMap parts).length + 1 := by
  rw [parts_eq, List.length_cons]

theorem length_le_length_parts (items : List Value) : items.length ≤ (items.flatMap parts).length := by
  induction items with
  | nil => exact Nat.le_refl 0
  | cons v rest ih =>
    have one := v.length_parts
    rw [List.flatMap_cons, List.length_append, List.length_cons]
    omega

end Value

namespace Wire

section Payloads

variable {f : FeatureSet} {box : Reader Value} (inside : Yields box fun n v => 5 * v.parts.length ≤ n)

include inside

theorem yields_list_paid :
    Yields (readList box) fun n items => 5 * (items.flatMap Value.parts).length ≤ n := by
  refine delimited_count.yields.bind fun m count _ => (inside.times_pieces count).weaken ?_
  intro n items all
  omega

theorem yields_fields_paid : Yields (readFields box) fun n fields =>
    5 * ((fields.map Prod.snd).flatMap Value.parts).length ≤ n := by
  have entry : Yields (readEntry box) fun n e => 5 * (Value.parts e.2).length ≤ n := by
    refine delimited_utf16.yields.bind fun m key _ => inside.bind_pure fun n v paid => ?_
    dsimp only
    omega
  refine delimited_count.yields.bind fun m count _ => (entry.times_pieces count).map ?_
  intro n pairs all
  have fewer := Fields.length_flatMap_ofPairs_le (fun e => Value.parts e.2) pairs
  rw [List.flatMap_map]
  omega

/-- A payload takes five bytes for each value inside. -/
theorem yields_payload_paid (tag : Tag) : Yields (readPayload f box tag) fun n v =>
    5 * (v.children.flatMap Value.parts).length ≤ n := by
  -- what does not hold others has nothing to pay for
  have alone (single : tag.holdsOthers = false) : Yields (readPayload f box tag) fun n v =>
      5 * (v.children.flatMap Value.parts).length ≤ n := by
    have some_bytes : Yields box fun n _ => 0 < n := inside.weaken fun n v paid => by
      have one := v.length_parts
      omega
    refine (yields_payload some_bytes (fun more paid => Nat.lt_of_lt_of_le paid more) id tag).weaken ?_
    intro n v received
    rw [Value.children_of_tag (received.tag_eq ▸ single)]
    exact Nat.zero_le n
  cases tag with
  | plain type =>
    cases type with
    | list => exact (yields_list_paid inside).map fun _ _ paid => paid
    | map => exact (yields_fields_paid inside).map fun _ _ paid => paid
    | boxed =>
      refine inside.map fun n v paid => ?_
      rw [Value.children, List.flatMap_singleton]
      exact paid
    | _ => exact alone rfl
  | named type =>
    cases type with
    | record type => exact (yields_fields_paid inside).map fun _ _ paid => paid
    | _ => exact alone rfl

end Payloads

/-- Every box takes five bytes of its own. -/
theorem yields_box_paid (r : Registry) (f : FeatureSet) (levels : Nat) :
    Yields (readBox f r levels) fun n v => 5 * v.parts.length ≤ n := by
  induction levels with
  | zero => exact .fail _
  | succ levels ih =>
    refine (yields_tag r).bind fun m tag header => (yields_payload_paid ih tag).weaken ?_
    intro n v paid
    have five := header.1
    rw [v.length_parts]
    omega

/-- For how many items a list makes room, by the number that it claims to have and the bytes that are left
behind that number. -/
def room (count left : Nat) : Nat := min count (left / 5)

def readRoomyList (box : Reader Value) : Reader (Nat × List Value) := do
  let count ← readCount
  let left ← get
  let items ← Reader.times count box
  return (room count left.length, items)

/-- Making room changes neither the items nor the bytes that are taken for them. -/
theorem readRoomyList_items (box : Reader Value) : Prod.snd <$> readRoomyList box = readList box := by
  unfold readRoomyList readList
  simp only [map_bind]
  refine bind_congr fun count => ?_
  funext input
  have seen : (get : Reader Bytes) input = .ok input input := rfl
  rw [Reader.bind_of_ok seen]
  change EStateM.bind (Reader.times count box) _ input = _
  unfold EStateM.bind
  cases Reader.times count box input <;> rfl

/-- As many items were read as were claimed, and there was room for so many: their boxes were paid for
with the bytes that were left. -/
theorem items_le_room {box : Reader Value} (inside : Yields box fun n v => 5 * v.parts.length ≤ n)
    {input rest : Bytes} {capacity : Nat} {items : List Value}
    (run : readRoomyList box input = .ok (capacity, items) rest) : items.length ≤ capacity := by
  obtain ⟨count, left, _, run⟩ := Reader.bind_eq_ok_iff.mp run
  obtain ⟨_, _, got, run⟩ := Reader.bind_eq_ok_iff.mp run
  cases got
  obtain ⟨read, _, run, last⟩ := Reader.bind_eq_ok_iff.mp run
  cases last
  obtain ⟨n, taken, claimed, paid⟩ := inside.times_pieces count left items rest run
  have each := Value.length_le_length_parts items
  simp only [room, Nat.le_min]
  omega

end Wire

namespace Value

/-- Decoding does not make much of little. Whatever is decoded, at whatever depth and for whatever
registry, five bytes at least were taken for each value in a box, the outermost and all that are inside
it. Hence a list never has more items than it made room for, however many it claims to have: the room that
is made before any item is read is never outgrown. -/
theorem decoding_takes_five_bytes_each (r : Registry) (f : FeatureSet) (depth : Nat) :
    (∀ input v rest, decodeAt r f depth input = .ok v rest →
        5 * v.parts.length + rest.length ≤ input.length) ∧
      Prod.snd <$> Wire.readRoomyList (decodeAt r f depth) = Wire.readList (decodeAt r f depth) ∧
      ∀ input capacity items rest,
        Wire.readRoomyList (decodeAt r f depth) input = .ok (capacity, items) rest →
          items.length ≤ capacity := by
  have paid : Yields (decodeAt r f depth) fun n v => 5 * v.parts.length ≤ n :=
    Wire.yields_box_paid r f (maxDepth + 1 - depth)
  refine ⟨?_, Wire.readRoomyList_items _, ?_⟩
  · intro input v rest run
    obtain ⟨n, taken, enough⟩ := paid input v rest run
    omega
  · intro input capacity items rest run
    exact Wire.items_le_room paid run

/-- Boxes in boxes, and boxes of nothing in a list, take five bytes each and no more. -/
theorem nested_boxes_take_five_bytes_each :
    (decodeAt .standard .none 0 [0, 0, 0, 138, 0, 0, 0, 0, 138, 0, 0, 0, 0, 0, 0, 7] =
        .ok (boxed (boxed void)) [7] ∧ 5 * (boxed (boxed void)).parts.length + 1 ≤ 16) ∧
      Wire.readRoomyList (decodeAt .standard .none 63) [0, 0, 0, 2, 0, 0, 0, 0, 0, 0, 0, 0, 0, 0, 7] =
        .ok (2, [void, void]) [7] ∧ [void, void].length ≤ 2 := by
  have boxes : decodeAt .standard .none 0 [0, 0, 0, 138, 0, 0, 0, 0, 138, 0, 0, 0, 0, 0, 0, 7] =
      .ok (boxed (boxed void)) [7] := by with_unfolding_all rfl
  have roomy : Wire.readRoomyList (decodeAt .standard .none 63)
      [0, 0, 0, 2, 0, 0, 0, 0, 0, 0, 0, 0, 0, 0, 7] = .ok (2, [void, void]) [7] := by
    with_unfolding_all rfl
  exact ⟨⟨boxes, (decoding_takes_five_bytes_each .standard .none 0).1 _ _ _ boxes⟩, roomy,
    (decoding_takes_five_bytes_each .standard .none 63).2.2 _ _ _ _ roomy⟩

end Value
end Datastream
