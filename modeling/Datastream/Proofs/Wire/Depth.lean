import Datastream.Proofs.Calendar.Succession
import Datastream.Proofs.Wire.Decoded

/-!
# The depth limit

A value may lie at most `maxDepth` levels inside others, counting from where the reading starts. The
limit is exact (`decodeAt_height`): what is read never reaches below it, and of what was written all
is read that does not, whatever containers it goes through. The value that comes out need not be known
for that, only the time of a message has to be in range (`not_all_read`). So of each output it is said
when it is read (`ReadIff`), which goes from the items of a container to the container, and from a
level to the one above.

The levels are those that `deserialize_nested` counts.
-/
namespace Datastream

namespace Output

/-- Unless it was stopped, the output is read just when `p` holds, and then to its end, whatever
follows it; or else reading it fails with this error. -/
def ReadIff {α : Type} (o : Output) (read : Reader α) (p : Prop) (error : Error) : Prop :=
  o.stop = none → ∀ rest,
    (p → ∃ a, read (o.bytes ++ rest) = .ok a rest) ∧
      (¬p → ∃ left, read (o.bytes ++ rest) = .error error left)

section ReadIff

variable {α β γ : Type} {o o' : Output} {read : Reader α} {next : α → Reader β} {a : α} {p q : Prop}
  {error : Error}

theorem ReadBy.readIff (h : o.ReadBy read a) (holds : p) : o.ReadIff read p error :=
  fun unstopped rest => ⟨fun _ => ⟨a, h unstopped rest⟩, fun fails => absurd holds fails⟩

theorem ReadIff.congr (h : o.ReadIff read p error) (same : p ↔ q) : o.ReadIff read q error := by
  rwa [← propext same]

/-- What is read before leaves it open. -/
theorem ReadIff.after (before : o.ReadBy read a) (h : o'.ReadIff (next a) p error) :
    (o ++ o').ReadIff (read >>= next) p error := by
  intro unstopped rest
  obtain ⟨front, back⟩ := (stop_append o o').mp unstopped
  rw [bytes_append front, List.append_assoc, Reader.bind_of_ok (before front (o'.bytes ++ rest))]
  exact h back rest

theorem ReadIff.map (f : α → β) (h : o.ReadIff read p error) : o.ReadIff (f <$> read) p error := by
  intro unstopped rest
  rw [map_eq_pure_bind]
  refine ⟨fun holds => ?_, fun fails => ?_⟩
  · obtain ⟨a, run⟩ := (h unstopped rest).1 holds
    rw [Reader.bind_of_ok run]
    exact ⟨f a, rfl⟩
  · obtain ⟨left, run⟩ := (h unstopped rest).2 fails
    rw [Reader.bind_of_error run]
    exact ⟨left, rfl⟩

/-- Items are read up to the first that is not. -/
theorem ReadIff.times_go {write : γ → Output} {p : γ → Prop} (xs : List γ)
    (items : ∀ x ∈ xs, (write x).ReadIff read (p x) error) (done : List α) :
    (each write xs).ReadIff (Reader.times.go read xs.length done) (∀ x ∈ xs, p x) error := by
  induction xs generalizing done with
  | nil => exact (ReadBy.pure done.reverse).readIff (List.forall_mem_nil _)
  | cons x xs ih =>
    intro unstopped rest
    obtain ⟨front, back⟩ := (stop_append _ _).mp unstopped
    obtain ⟨first_read, first_fails⟩ := items x List.mem_cons_self front ((each write xs).bytes ++ rest)
    rw [List.forall_mem_cons, each, bytes_append front, List.append_assoc]
    by_cases here : p x
    · obtain ⟨a, run⟩ := first_read here
      have later := ih (fun y member => items y (List.mem_cons_of_mem x member)) (a :: done) back rest
      have onward : Reader.times.go read (x :: xs).length done
          ((write x).bytes ++ ((each write xs).bytes ++ rest)) =
          Reader.times.go read xs.length (a :: done) ((each write xs).bytes ++ rest) :=
        Reader.bind_of_ok run
      rw [onward]
      exact ⟨fun all => later.1 all.2, fun fails => later.2 fun others => fails ⟨here, others⟩⟩
    · obtain ⟨left, run⟩ := first_fails here
      have refused : Reader.times.go read (x :: xs).length done
          ((write x).bytes ++ ((each write xs).bytes ++ rest)) = .error error left :=
        Reader.bind_of_error run
      exact ⟨fun all => absurd all.1 here, fun _ => ⟨left, refused⟩⟩

theorem ReadIff.times {write : γ → Output} {p : γ → Prop} (xs : List γ)
    (items : ∀ x ∈ xs, (write x).ReadIff read (p x) error) :
    (each write xs).ReadIff (Reader.times xs.length read) (∀ x ∈ xs, p x) error :=
  ReadIff.times_go xs items []

end ReadIff

end Output

namespace Value

/-- Not a message whose time, sent in milliseconds, is past the end of the calendar, as a leap second
in its very last second is. -/
def instantIsReadable (f : FeatureSet) : Value → Bool
  | message m => !f.has .longTime || (Reading.ofMillis? m.time.millis).isSome
  | _ => true

/-- The times of all messages inside come back as some instant. -/
def HasReadableInstants (f : FeatureSet) (v : Value) : Prop :=
  ∀ part ∈ v.parts, part.instantIsReadable f = true

instance (f : FeatureSet) (v : Value) : Decidable (v.HasReadableInstants f) :=
  inferInstanceAs (Decidable (∀ part ∈ v.parts, part.instantIsReadable f = true))

end Value

namespace Wire

open Output

variable (r : Registry) (f : FeatureSet) {box : Reader Value} {p : Value → Prop} {error : Error}

theorem readIff_list (items : List Value)
    (inside : ∀ v ∈ items, (v.encode r f).ReadIff box (p v) error) :
    (count items.length ++ boxes r f items).ReadIff (readList box) (∀ v ∈ items, p v) error := by
  rw [boxes_eq_each]
  exact .after (readBy_count items.length) (.times items inside)

theorem readIff_fields (fields : Fields)
    (inside : ∀ v ∈ fields.map (·.2), (v.encode r f).ReadIff box (p v) error) :
    (count fields.length ++ entries r f fields).ReadIff (readFields box)
      (∀ v ∈ fields.map (·.2), p v) error := by
  have entrywise : ∀ e ∈ fields, (entry r f e).ReadIff (readEntry box) (p e.2) error := by
    intro e member
    have value := (inside e.2 (List.mem_map_of_mem member)).map fun v => (e.1, v)
    rw [map_eq_pure_bind] at value
    exact .after (readBy_utf16 (some e.1)) value
  rw [entries_eq_each, List.forall_mem_map]
  exact .after (readBy_count fields.length) ((ReadIff.times fields entrywise).map _)

/-- The payload of a message with a readable time. -/
theorem readBy_message_of_readable (m : Message)
    (readable : (Value.message m).instantIsReadable f = true) :
    ∃ m', (message f m).ReadBy (readMessage f) m' := by
  have timed : ∃ t, (if f.has .longTime then Reading.ofMillis? m.time.millis
      else some m.time.wholeSeconds) = some t := by
    by_cases long : f.has .longTime = true
    · rw [Value.instantIsReadable, long, Bool.not_true, Bool.false_or] at readable
      rw [if_pos long]
      exact Option.isSome_iff_exists.mp readable
    · exact ⟨m.time.wholeSeconds, if_neg long⟩
  obtain ⟨t, found⟩ := timed
  exact ⟨_, readBy_message_of_time f m (readBy_messageTime_of_found f m.time found)⟩

/-- A payload is read just when everything inside it is. -/
theorem readIff_payload (v : Value) (honest : v.offsetIsHonest = true)
    (readable : v.instantIsReadable f = true)
    (inside : ∀ child ∈ v.children, (child.encode r f).ReadIff box (p child) error) :
    (payload r f v).ReadIff (readPayload f box v.tag) (∀ child ∈ v.children, p child) error := by
  cases v with
  | list items =>
    rw [payload]
    exact (readIff_list r f items inside).map Value.list
  | map fields =>
    rw [payload]
    exact (readIff_fields r f fields inside).map Value.map
  | record type fields =>
    rw [payload]
    exact (readIff_fields r f fields inside).map (Value.record type)
  | boxed inner =>
    rw [payload]
    exact ((inside inner List.mem_cons_self).map Value.boxed).congr List.forall_mem_singleton.symm
  | message m =>
    obtain ⟨m', read⟩ := readBy_message_of_readable f m readable
    rw [payload]
    exact (read.map Value.message).readIff (List.forall_mem_nil _)
  | _ =>
    refine (readBy_payload r f _ rfl honest rfl ?_).readIff ?_
    · exact List.forall_mem_nil _
    · exact List.forall_mem_nil _

/-- A box is read by a reader that may open more levels than it is high. -/
theorem readIff_encode (v : Value) (levels : Nat) (honest : v.HasHonestOffsets)
    (readable : v.HasReadableInstants f) :
    (v.encode r f).ReadIff (readBox f r levels) (v.height < levels) (.malformed .tooDeep) := by
  induction levels generalizing v with
  | zero => exact fun _ rest => ⟨fun below => absurd below (Nat.not_lt_zero _), fun _ => ⟨_, rfl⟩⟩
  | succ levels ih =>
    obtain ⟨honest, honest_below⟩ := (Value.forall_parts_iff v).mp honest
    obtain ⟨readable, readable_below⟩ := (Value.forall_parts_iff v).mp readable
    have payload := readIff_payload r f v honest readable fun child member =>
      ih child (honest_below child member) (readable_below child member)
    have whole := ReadIff.after (readBy_tag r v.tag v.tag_proper) payload
    rw [← Value.encode_eq] at whole
    exact whole.congr ((Value.height_le_iff v levels).symm.trans Nat.lt_succ_iff.symm)

end Wire

namespace Value

/-- The limit is exact: a value that is read at some depth does not reach below `maxDepth`, and a
value that was written is read there if it does not, and refused for its depth if it does. -/
theorem decodeAt_height (r : Registry) (f : FeatureSet) (depth : Nat) :
    (∀ input v rest, decodeAt r f depth input = .ok v rest → depth + v.height ≤ maxDepth) ∧
      ∀ v b, v.HasHonestOffsets → v.HasReadableInstants f → (encode r f v).toExcept = .ok b → ∀ rest,
        (depth + v.height ≤ maxDepth → ∃ v', decodeAt r f depth (b ++ rest) = .ok v' rest) ∧
        (maxDepth < depth + v.height →
          ∃ left, decodeAt r f depth (b ++ rest) = .error (.malformed .tooDeep) left) := by
  refine ⟨fun input v rest run => ?_, fun v b honest readable written rest => ?_⟩
  · obtain ⟨n, _, decoded⟩ := Wire.yields_box r f (maxDepth + 1 - depth) input v rest run
    have below := decoded.height_lt
    omega
  · obtain ⟨unstopped, rfl⟩ := (Output.toExcept_eq_ok_iff _ _).mp written
    obtain ⟨read, refused⟩ :=
      Wire.readIff_encode r f v (maxDepth + 1 - depth) honest readable unstopped rest
    exact ⟨fun fits => read (by omega), fun deep => refused (by omega)⟩

/-- A map in a box in a record in a list, with something in it: four levels. -/
def nest : Value := list [void, record .identity [("a", boxed (map [("b", void)]))]]

theorem decodeAt_nest :
    (encode .standard .none nest).toExcept = .ok (encode .standard .none nest).bytes ∧
      (∃ v, decodeAt .standard .none 60 (encode .standard .none nest).bytes = .ok v [] ∧
        60 + v.height ≤ maxDepth) ∧
      ∃ left, decodeAt .standard .none 61 (encode .standard .none nest).bytes =
        .error (.malformed .tooDeep) left := by
  have written : (encode .standard .none nest).toExcept = .ok (encode .standard .none nest).bytes := rfl
  have honest : nest.HasHonestOffsets := by decide
  have readable : nest.HasReadableInstants .none := by decide
  have read := ((decodeAt_height .standard .none 60).2 nest _ honest readable written []).1
  have refused := ((decodeAt_height .standard .none 61).2 nest _ honest readable written []).2
  rw [List.append_nil] at read refused
  obtain ⟨v, run⟩ := read (by decide)
  exact ⟨written, ⟨v, run, (decodeAt_height .standard .none 60).1 _ v _ run⟩, refused (by decide)⟩

/-- The very last second of the calendar, as a leap second: in milliseconds it is past the end. -/
def lastLeap : Reading := ⟨.last, (TimeOfDay.of? 86399 1000000000).get (by decide)⟩

def lateMessage : Value :=
  message
    { id := ⟨1⟩, time := lastLeap, type := ⟨1⟩, flag := ⟨0⟩, buffer := ⟨⟨1⟩, ⟨1⟩, ⟨2⟩, 0, some "#a"⟩,
      sender := "n", prefixes := "", realName := "", avatarUrl := "", content := "x" }

/-- Not everything that was written is read where it is not too deep: a message of that second is
refused for its time. -/
theorem not_all_read :
    ¬ ∀ (f : FeatureSet) (v : Value) (b : Bytes), v.HasHonestOffsets →
      (encode .standard f v).toExcept = .ok b → ∀ depth, depth + v.height ≤ maxDepth →
        ∃ v' rest, decodeAt .standard f depth b = .ok v' rest := by
  intro all
  let f := FeatureSet.ofFeatures [.longTime]
  have written : (encode .standard f lateMessage).toExcept =
      .ok (encode .standard f lateMessage).bytes := rfl
  have refused : ∃ left, decodeAt .standard f 0 (encode .standard f lateMessage).bytes =
      .error (.malformed .timestampOutOfRange) left :=
    ⟨_, by with_unfolding_all rfl⟩
  obtain ⟨left, refused⟩ := refused
  obtain ⟨v, rest, run⟩ := all f lateMessage _ (by decide) written 0 (by decide)
  rw [refused] at run
  cases run

end Value
end Datastream
