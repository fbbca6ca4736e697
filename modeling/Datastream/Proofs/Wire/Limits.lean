import Datastream.Proofs.Wire.Boxed

/-!
# What can be written

A writer stops at three things only: a type that the registry does not know, a length or count above
`maxLength`, and a message time that does not fit its 32-bit field while there are no long times.

* `Value.ownFits` says of one value that its own lengths, counts and times fit;
* `Value.Fits` says it of the value and of everything inside;
* `stop_encode` and `stop_encodeList` say that this, and the types being known, is all it takes.
-/
namespace Datastream

namespace Wire

def Utf8Fits (s : Option String) : Prop := ∀ text ∈ s, (Utf8.encode text).length ≤ maxLength

/-- A text that is null, or whose UTF-16 has a length in bytes that fits. -/
def Utf16Fits (s : Option String) : Prop := ∀ text ∈ s, (Utf16.encode text).length * 2 ≤ maxLength

theorem stop_write (b : Bytes) : (Output.write b).stop = none := rfl

theorem stop_count_append (n : Nat) (o : Output) :
    (count n ++ o).stop = none ↔ n ≤ maxLength ∧ o.stop = none := by
  rw [Output.stop_append, stop_count]

theorem stop_bytes (b : Option Bytes) :
    (bytes b).stop = none ↔ ∀ x ∈ b, x.length ≤ maxLength := by
  cases b <;> simp [bytes, stop_count_append, stop_write]

theorem stop_utf8 (s : Option String) : (utf8 s).stop = none ↔ Utf8Fits s := by
  cases s <;> simp [utf8, stop_bytes, Utf8Fits]

theorem stop_utf16 (s : Option String) : (utf16 s).stop = none ↔ Utf16Fits s := by
  cases s <;> simp [utf16, stop_count_append, stop_write, Utf16Fits]

end Wire

open Wire

/-- The time and the texts of a message fit the layout that the features ask for. -/
def Message.Fits (f : FeatureSet) (m : Message) : Prop :=
  (f.has .longTime = true ∨ -2147483648 ≤ m.time.seconds ∧ m.time.seconds ≤ 2147483647) ∧
    Utf8Fits m.buffer.name ∧ Utf8Fits (some m.sender) ∧
    (f.has .senderPrefixes = true → Utf8Fits (some m.prefixes)) ∧
    (f.has .richMessages = true → Utf8Fits (some m.realName) ∧ Utf8Fits (some m.avatarUrl)) ∧
    Utf8Fits (some m.content)

namespace Value

/-- The lengths, counts and times of a value fit, whatever is inside it. -/
def ownFits (f : FeatureSet) : Value → Prop
  | string s => Utf16Fits s
  | stringList items => items.length ≤ maxLength ∧ ∀ s ∈ items, Utf16Fits s
  | bytes b => ∀ x ∈ b, x.length ≤ maxLength
  | list items => items.length ≤ maxLength
  | map fields => fields.length ≤ maxLength ∧ ∀ entry ∈ fields, Utf16Fits (some entry.1)
  | record _ fields => fields.length ≤ maxLength ∧ ∀ entry ∈ fields, Utf16Fits (some entry.1)
  | bufferInfo info => Utf8Fits info.name
  | message m => m.Fits f
  | _ => True

/-- Everything in a value fits. -/
def Fits (f : FeatureSet) (v : Value) : Prop := ∀ part ∈ v.parts, part.ownFits f

end Value

namespace Wire

variable (r : Registry) (f : FeatureSet)

theorem stop_messageTime (time : Reading) :
    (messageTime f time).stop = none ↔
      f.has .longTime = true ∨ -2147483648 ≤ time.seconds ∧ time.seconds ≤ 2147483647 := by
  unfold messageTime
  split
  · simp_all [stop_write]
  split <;> simp_all [stop_write, Output.fail]

theorem stop_bufferInfo (info : BufferInfo) :
    (bufferInfo info).stop = none ↔ Utf8Fits info.name := by
  simp [bufferInfo, Output.stop_append, stop_write, stop_utf8]

theorem stop_message (m : Message) : (message f m).stop = none ↔ m.Fits f := by
  have prefixes : (if f.has .senderPrefixes then utf8 (some m.prefixes) else .empty).stop = none ↔
      (f.has .senderPrefixes = true → Utf8Fits (some m.prefixes)) := by
    split <;> simp_all [stop_utf8, Output.empty]
  have rich : (if f.has .richMessages then utf8 (some m.realName) ++ utf8 (some m.avatarUrl)
        else .empty).stop = none ↔
      (f.has .richMessages = true → Utf8Fits (some m.realName) ∧ Utf8Fits (some m.avatarUrl)) := by
    split <;> simp_all [Output.stop_append, stop_utf8, Output.empty]
  simp only [message, Output.stop_append, stop_write, stop_messageTime, stop_bufferInfo, stop_utf8,
    prefixes, rich, Message.Fits, true_and, and_true, and_assoc]

/-- The names of types are in ASCII and short. -/
theorem stop_typeName (type : NamedType) : (typeName type.name).stop = none := by
  cases type with
  | record type => cases type <;> decide
  | _ => decide

theorem stop_boxHeader (tag : Tag) : (boxHeader r tag).stop = none ↔ r.knows tag = true := by
  unfold boxHeader withEntry Registry.lookup
  cases r.knows tag with
  | false => simp [Output.fail]
  | true => cases tag <;> simp [header, Output.stop_append, stop_write, stop_typeName, Output.empty]

theorem stop_boxes (items : List Value) :
    (boxes r f items).stop = none ↔ ∀ v ∈ items, (v.encode r f).stop = none := by
  rw [boxes_eq_each, Output.stop_each]

theorem stop_entries (fields : Fields) :
    (entries r f fields).stop = none ↔
      (∀ e ∈ fields, Utf16Fits (some e.1)) ∧ ∀ v ∈ fields.map (·.2), (v.encode r f).stop = none := by
  rw [entries_eq_each, Output.stop_each]
  simp only [entry, Output.stop_append, stop_utf16, List.forall_mem_map]
  exact ⟨fun h => ⟨fun e member => (h e member).1, fun e member => (h e member).2⟩,
    fun h e member => ⟨h.1 e member, h.2 e member⟩⟩

/-- A payload can be written when its own part of it can, and every box inside. -/
theorem stop_payload (v : Value) :
    (payload r f v).stop = none ↔
      v.ownFits f ∧ ∀ child ∈ v.children, (child.encode r f).stop = none := by
  cases v <;> simp [payload, Value.ownFits, Value.children, stop_write, stop_count_append, stop_utf16,
    stop_bytes, stop_bufferInfo, stop_message, stop_boxes, stop_entries, stringList_eq_each,
    Output.stop_each, Output.empty, and_assoc]

theorem stop_encode (v : Value) :
    (v.encode r f).stop = none ↔ ∀ part ∈ v.parts, r.knows part.tag = true ∧ part.ownFits f := by
  induction v using Value.induction_on_children with
  | step v ih =>
    have inside : (∀ child ∈ v.children, (child.encode r f).stop = none) ↔
        ∀ child ∈ v.children, ∀ part ∈ child.parts, r.knows part.tag = true ∧ part.ownFits f :=
      forall₂_congr ih
    rw [Value.forall_parts_iff, Value.encode_eq, Output.stop_append, stop_boxHeader, stop_payload, inside,
      and_assoc]

theorem stop_encodeList (items : List Value) :
    (Value.encodeList r f items).stop = none ↔
      items.length ≤ maxLength ∧ ∀ v ∈ items, (v.encode r f).stop = none := by
  rw [Value.encodeList, stop_count_append, stop_boxes]

/-- With all types known, it is enough that everything fits. -/
theorem stop_encode_standard (v : Value) : (v.encode .standard f).stop = none ↔ v.Fits f := by
  rw [stop_encode]
  exact ⟨fun h part member => (h part member).2,
    fun h part member => ⟨part.knows_standard, h part member⟩⟩

end Wire

namespace Value

/-- A list of values that can be written: their number fits, and so does everything in them. -/
def AllFit (f : FeatureSet) (items : List Value) : Prop :=
  items.length ≤ maxLength ∧ ∀ v ∈ items, v.Fits f

theorem encodeList_eq_ok_iff (f : FeatureSet) (items : List Value) :
    (∃ b, (encodeList .standard f items).toExcept = .ok b) ↔ AllFit f items := by
  have writable : (encodeList .standard f items).stop = none ↔ AllFit f items := by
    rw [stop_encodeList]
    exact and_congr_right fun _ => forall₂_congr fun v _ => stop_encode_standard f v
  rw [← writable]
  exact ⟨fun ⟨b, wrote⟩ => ((Output.toExcept_eq_ok_iff _ b).mp wrote).1,
    fun unstopped => ⟨_, (Output.toExcept_eq_ok_iff _ _).mpr ⟨unstopped, rfl⟩⟩⟩

end Value
end Datastream
