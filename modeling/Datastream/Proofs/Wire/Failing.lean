import Datastream.Proofs.Wire.Limits

/-!
# Why writing fails

What a writer is given is of a type, and the entry for that type writes it, so writing stops at no
mismatch of types. It stops at what is in the value only (`Obstacle`): at a type that the registry does
not know, at a length or count above `maxLength`, or, without long times, at the time of a message. If
all lengths, counts and times fit, it stops at the first type on its way that is not known. This holds of
a boxed value, of a payload, of a list and of a map (`writers_fail_for_the_value_only`).

The refusal of an entry is `mismatch`.
-/
namespace Datastream

namespace Output

variable {α β : Type}

/-- Of two outputs, the first that stopped says why. -/
theorem stop_append_eq_or (a b : Output) : (a ++ b).stop = a.stop.or b.stop := by
  change (andThen a b).stop = _
  unfold andThen
  split
  · next unstopped => rw [unstopped, Option.none_or]
  · next error stopped => rw [stopped, Option.some_or]

/-- If each item stops at the first of its parts that is to blame, all of them together do. -/
theorem stop_each_eq_findSome? {write : α → Output} {parts : α → List β} {blame : β → Option Error}
    {xs : List α} (first : ∀ x ∈ xs, (write x).stop = (parts x).findSome? blame) :
    (each write xs).stop = (xs.flatMap parts).findSome? blame := by
  induction xs with
  | nil => rfl
  | cons x xs ih =>
    obtain ⟨here, later⟩ := List.forall_mem_cons.mp first
    rw [each, stop_append_eq_or, here, ih later, List.flatMap_cons, List.findSome?_append]

theorem toExcept_eq_error_iff (a : Output) (error : Error) :
    a.toExcept = .error error ↔ a.stop = some error := by
  unfold toExcept
  split <;> simp_all

/-- An output that stops, if it does, with an error for which `P` holds. -/
def StopsAt (P : Error → Prop) (o : Output) : Prop := ∀ error, o.stop = some error → P error

section StopsAt

variable {P : Error → Prop} {a b : Output}

theorem StopsAt.write (bytes : Bytes) : (Output.write bytes).StopsAt P := nofun

theorem StopsAt.empty : Output.empty.StopsAt P := nofun

theorem StopsAt.fail {error : Error} (holds : P error) : (Output.fail error).StopsAt P := by
  intro error' same
  cases same
  exact holds

theorem StopsAt.append (first : a.StopsAt P) (second : b.StopsAt P) : (a ++ b).StopsAt P := by
  intro error stopped
  rw [stop_append_eq_or, Option.or_eq_some_iff] at stopped
  rcases stopped with early | ⟨-, late⟩
  · exact first error early
  · exact second error late

theorem StopsAt.each {write : α → Output} {xs : List α} (all : ∀ x ∈ xs, (write x).StopsAt P) :
    (Output.each write xs).StopsAt P := by
  induction xs with
  | nil => exact .empty
  | cons x xs ih =>
    obtain ⟨here, later⟩ := List.forall_mem_cons.mp all
    exact here.append (ih later)

end StopsAt
end Output

def Registry.refusal? (r : Registry) (tag : Tag) : Option Error :=
  if r.knows tag then none else some (unknown tag)

namespace Wire

open Output (StopsAt)

variable (r : Registry) (f : FeatureSet)

/-- What stops the writing of a value. -/
inductive Obstacle : Error → Prop
  | unregistered {tag : Tag} (unknown : r.knows tag = false) : Obstacle (Registry.unknown tag)
  | tooLong {length : Nat} (exceeds : maxLength < length) :
    Obstacle (.malformed (.lengthTooLarge length))
  | timestamp (narrow : f.has .longTime = false) : Obstacle (.malformed .timestampOutOfRange)

variable {r f}

theorem Obstacle.ne_mismatch {error : Error} (obstacle : Obstacle r f error)
    (expected actual : String) : error ≠ .typeMismatch expected actual := by
  cases obstacle with
  | @unregistered tag unknown => cases tag <;> nofun
  | tooLong | timestamp => nofun

theorem stopsAt_count (n : Nat) : (count n).StopsAt (Obstacle r f) := by
  unfold count
  split
  · exact .write _
  · next exceeds => exact .fail (.tooLong (Nat.not_le.mp exceeds))

theorem stopsAt_bytes (b : Option Bytes) : (bytes b).StopsAt (Obstacle r f) := by
  cases b with
  | none => exact .write _
  | some b => exact (stopsAt_count _).append (.write _)

theorem stopsAt_utf8 (s : Option String) : (utf8 s).StopsAt (Obstacle r f) := stopsAt_bytes _

theorem stopsAt_utf16 (s : Option String) : (utf16 s).StopsAt (Obstacle r f) := by
  cases s with
  | none => exact .write _
  | some s => exact (stopsAt_count _).append (.write _)

theorem stopsAt_bufferInfo (info : BufferInfo) : (bufferInfo info).StopsAt (Obstacle r f) :=
  (StopsAt.write _).append (stopsAt_utf8 _)

theorem stopsAt_messageTime (time : Reading) : (messageTime f time).StopsAt (Obstacle r f) := by
  unfold messageTime
  split
  · exact .write _
  · next narrow =>
    split
    · exact .write _
    · exact .fail (.timestamp (Bool.not_eq_true _ ▸ narrow))

theorem stopsAt_message (m : Message) : (message f m).StopsAt (Obstacle r f) := by
  have prefixes : (if f.has .senderPrefixes then utf8 (some m.prefixes) else .empty).StopsAt
      (Obstacle r f) := by
    split
    · exact stopsAt_utf8 _
    · exact .empty
  have rich : (if f.has .richMessages then utf8 (some m.realName) ++ utf8 (some m.avatarUrl)
      else .empty).StopsAt (Obstacle r f) := by
    split
    · exact (stopsAt_utf8 _).append (stopsAt_utf8 _)
    · exact .empty
  have front : (.write (msgId f m.id) ++ messageTime f m.time ++
      .write (Bytes.ofNat 4 m.type.toNat ++ Bytes.ofNat 1 m.flag.toNat)).StopsAt (Obstacle r f) :=
    ((StopsAt.write _).append (stopsAt_messageTime _)).append (.write _)
  have sender := (front.append (stopsAt_bufferInfo m.buffer)).append (stopsAt_utf8 (some m.sender))
  exact ((sender.append prefixes).append rich).append (stopsAt_utf8 _)

theorem stop_boxHeader_eq (tag : Tag) : (boxHeader r tag).stop = r.refusal? tag := by
  unfold Registry.refusal?
  cases known : r.knows tag with
  | true => exact (stop_boxHeader r tag).mpr known
  | false => simp [boxHeader, withEntry, Registry.lookup, known, Output.fail]

theorem stopsAt_boxHeader (tag : Tag) : (boxHeader r tag).StopsAt (Obstacle r f) := by
  intro error stopped
  rw [stop_boxHeader_eq, Registry.refusal?] at stopped
  split at stopped
  · cases stopped
  · next unknown =>
    cases stopped
    exact .unregistered (Bool.not_eq_true _ ▸ unknown)

theorem stopsAt_entries {fields : Fields}
    (inside : ∀ v ∈ fields.map (·.2), (v.encode r f).StopsAt (Obstacle r f)) :
    (entries r f fields).StopsAt (Obstacle r f) := by
  rw [entries_eq_each]
  exact .each fun e member => (stopsAt_utf16 _).append (inside e.2 (List.mem_map_of_mem member))

/-- A payload stops at nothing else as long as the boxes inside do not. -/
theorem stopsAt_payload (v : Value)
    (inside : ∀ child ∈ v.children, (child.encode r f).StopsAt (Obstacle r f)) :
    (payload r f v).StopsAt (Obstacle r f) := by
  cases v <;> simp only [payload]
  case void => exact .empty
  case string s => exact stopsAt_utf16 s
  case stringList items =>
    rw [stringList_eq_each]
    exact (stopsAt_count _).append (.each fun s _ => stopsAt_utf16 s)
  case bytes b => exact stopsAt_bytes b
  case list items =>
    rw [boxes_eq_each]
    exact (stopsAt_count _).append (.each inside)
  case map fields => exact (stopsAt_count _).append (stopsAt_entries inside)
  case boxed inner => exact inside inner List.mem_cons_self
  case bufferInfo info => exact stopsAt_bufferInfo info
  case message m => exact stopsAt_message m
  case record type fields => exact (stopsAt_count _).append (stopsAt_entries inside)
  all_goals exact .write _

theorem stopsAt_encode (v : Value) : (v.encode r f).StopsAt (Obstacle r f) := by
  induction v using Value.induction_on_children with
  | step v ih =>
    rw [Value.encode_eq]
    exact (stopsAt_boxHeader _).append (stopsAt_payload v ih)

/-- The first of some values, and of all inside them, whose type is not known. -/
def firstRefused? (r : Registry) (values : List Value) : Option Error :=
  (values.flatMap Value.parts).findSome? (r.refusal? ·.tag)

theorem stop_fields_of_fits {fields : Fields} (few : fields.length ≤ maxLength)
    (keys : ∀ e ∈ fields, Utf16Fits (some e.1))
    (inside : ∀ child ∈ fields.map (·.2),
      (child.encode r f).stop = child.parts.findSome? (r.refusal? ·.tag)) :
    (count fields.length ++ entries r f fields).stop = firstRefused? r (fields.map (·.2)) := by
  have each (e : String × Value) (member : e ∈ fields) :
      (entry r f e).stop = e.2.parts.findSome? (r.refusal? ·.tag) := by
    rw [entry, Output.stop_append_eq_or, (stop_utf16 _).mpr (keys e member), Option.none_or]
    exact inside e.2 (List.mem_map_of_mem member)
  rw [Output.stop_append_eq_or, (stop_count _).mpr few, Option.none_or, entries_eq_each,
    Output.stop_each_eq_findSome? each, firstRefused?, List.flatMap_map]

theorem stop_payload_of_fits {v : Value} (fits : v.ownFits f)
    (inside : ∀ child ∈ v.children,
      (child.encode r f).stop = child.parts.findSome? (r.refusal? ·.tag)) :
    (payload r f v).stop = firstRefused? r v.children := by
  cases v <;> simp only [payload, Value.children] at inside ⊢
  case string s => exact (stop_utf16 s).mpr fits
  case stringList items =>
    refine (stop_count_append _ _).mpr ⟨fits.1, ?_⟩
    rw [stringList_eq_each, Output.stop_each]
    exact fun s member => (stop_utf16 s).mpr (fits.2 s member)
  case bytes b => exact (stop_bytes b).mpr fits
  case list items =>
    rw [Output.stop_append_eq_or, (stop_count _).mpr fits, Option.none_or, boxes_eq_each,
      Output.stop_each_eq_findSome? inside, firstRefused?]
  case map fields => exact stop_fields_of_fits fits.1 fits.2 inside
  case boxed inner =>
    rw [firstRefused?, List.flatMap_singleton]
    exact inside inner List.mem_cons_self
  case bufferInfo info => exact (stop_bufferInfo info).mpr fits
  case message m => exact (stop_message f m).mpr fits
  case record type fields => exact stop_fields_of_fits fits.1 fits.2 inside
  all_goals rfl

/-- If everything fits, the writing stops at the first part whose type is not known. -/
theorem stop_encode_of_fits (v : Value) (fits : v.Fits f) :
    (v.encode r f).stop = v.parts.findSome? (r.refusal? ·.tag) := by
  induction v using Value.induction_on_children with
  | step v ih =>
    obtain ⟨own, below⟩ := (Value.forall_parts_iff v).mp fits
    have inside := stop_payload_of_fits own fun child member => ih child member (below child member)
    rw [Value.encode_eq, Output.stop_append_eq_or, stop_boxHeader_eq, inside, Value.parts_eq,
      List.findSome?_cons]
    cases r.refusal? v.tag <;> rfl

/-- How a writer fails that writes these boxed values with all that is in them, one after the other, and
has something of its own to fit. -/
structure FailsForValues (r : Registry) (f : FeatureSet) (own : Prop) (values : List Value)
    (o : Output) : Prop where
  obstacle : ∀ error, o.toExcept = .error error → Obstacle r f error
  no_mismatch : ∀ expected actual, o.toExcept ≠ .error (.typeMismatch expected actual)
  succeeds_iff : (∃ b, o.toExcept = .ok b) ↔
    own ∧ ∀ part ∈ values.flatMap Value.parts, r.knows part.tag = true ∧ part.ownFits f
  /-- If all that hinders it are types that are not known, the error is that for the first of them. -/
  first : own → (∀ part ∈ values.flatMap Value.parts, part.ownFits f) →
    ∀ known part later, values.flatMap Value.parts = known ++ part :: later →
      (∀ earlier ∈ known, r.knows earlier.tag = true) → r.knows part.tag = false →
        o.toExcept = .error (Registry.unknown part.tag)

theorem FailsForValues.of_stop {own : Prop} {values : List Value} {o : Output}
    (stops : o.StopsAt (Obstacle r f))
    (unstopped : o.stop = none ↔
      own ∧ ∀ part ∈ values.flatMap Value.parts, r.knows part.tag = true ∧ part.ownFits f)
    (first : own → (∀ part ∈ values.flatMap Value.parts, part.ownFits f) →
      o.stop = firstRefused? r values) : FailsForValues r f own values o where
  obstacle error failed := stops error ((Output.toExcept_eq_error_iff o error).mp failed)
  no_mismatch expected actual failed :=
    (stops _ ((Output.toExcept_eq_error_iff o _).mp failed)).ne_mismatch expected actual rfl
  succeeds_iff := by
    rw [← unstopped]
    exact ⟨fun ⟨b, wrote⟩ => ((Output.toExcept_eq_ok_iff o b).mp wrote).1,
      fun whole => ⟨o.bytes, (Output.toExcept_eq_ok_iff o _).mpr ⟨whole, rfl⟩⟩⟩
  first fitsItself fit known part later order before unknown := by
    have refused : r.refusal? part.tag = some (Registry.unknown part.tag) := by
      simp [Registry.refusal?, unknown]
    have passed (earlier : Value) (member : earlier ∈ known) : r.refusal? earlier.tag = none := by
      simp [Registry.refusal?, before earlier member]
    rw [Output.toExcept_eq_error_iff, first fitsItself fit, firstRefused?, List.findSome?_eq_some_iff]
    exact ⟨known, part, later, order, refused, passed⟩

/-- Whatever stops where a boxed value does fails for the value and what is inside. -/
theorem fails_of_stop_eq {v : Value} {o : Output} (same : o.stop = (v.encode r f).stop) :
    FailsForValues r f True [v] o := by
  have alone : [v].flatMap Value.parts = v.parts := List.flatMap_singleton ..
  refine .of_stop (fun error stopped => stopsAt_encode v error (same ▸ stopped)) ?_ fun _ fits => ?_
  · rw [same, stop_encode, alone, true_and]
  · rw [alone] at fits
    rw [same, stop_encode_of_fits v fits, firstRefused?, alone]

/-- A payload fails for what its boxes hold, and for its own part of the value. -/
theorem fails_payload (v : Value) : FailsForValues r f (v.ownFits f) v.children (payload r f v) := by
  refine .of_stop (stopsAt_payload v fun child _ => stopsAt_encode child) ?_ fun own fits => ?_
  · rw [stop_payload]
    simp only [stop_encode, List.mem_flatMap]
    exact and_congr_right fun _ =>
      ⟨fun h part ⟨child, member, inside⟩ => h child member part inside,
        fun h child member part inside => h part ⟨child, member, inside⟩⟩
  · exact stop_payload_of_fits own fun child member => stop_encode_of_fits child fun part inside =>
      fits part (List.mem_flatMap.mpr ⟨child, member, inside⟩)

end Wire

namespace Value

open Wire

variable (r : Registry) (f : FeatureSet)

/-- A payload alone stops where the boxed value does, for its type is looked up all the same. -/
theorem stop_encodePayload (v : Value) : (encodePayload r f v).stop = (encode r f v).stop := by
  rw [encode_eq, Output.stop_append_eq_or, stop_boxHeader_eq, Registry.refusal?]
  cases known : r.knows v.tag with
  | true => simp [encodePayload_eq known]
  | false => simp [encodePayload, encodeAs, withEntry, Registry.lookup, known, Output.fail]

/-- An entry answers a value of any other type with a mismatch. -/
theorem encodeAs_of_ne {tag : Tag} {v : Value} (known : r.knows tag = true) (other : v.tag ≠ tag) :
    encodeAs r f tag v = mismatch tag v := by
  rw [encodeAs, withEntry, (r.lookup_eq_ok_iff tag).mpr known]
  exact payloadAs_of_ne r f other

/-- Just a registered entry for another type than the value's answers with a mismatch. -/
theorem encodeAs_mismatch_iff (tag : Tag) (v : Value) :
    (∃ expected actual, (encodeAs r f tag v).toExcept = .error (.typeMismatch expected actual)) ↔
      r.knows tag = true ∧ v.tag ≠ tag := by
  constructor
  · rintro ⟨expected, actual, refused⟩
    cases known : r.knows tag with
    | false =>
      rw [encodeAs, withEntry, Registry.lookup, known] at refused
      cases tag <;> cases refused
    | true =>
      refine ⟨rfl, ?_⟩
      rintro rfl
      have own := (Output.toExcept_eq_error_iff _ _).mp refused
      change (encodePayload r f v).stop = _ at own
      rw [stop_encodePayload] at own
      exact (stopsAt_encode v _ own).ne_mismatch expected actual rfl
  · rintro ⟨known, other⟩
    exact ⟨tag.name, v.tag.name, by rw [encodeAs_of_ne r f known other]; rfl⟩

/-- Writing fails only for a reason in the value. Whatever writes a value is the entry that is registered
under its type, and while an entry answers a mismatch to just the values of other types, no writer ever
stops at one. It succeeds just if the type of every boxed value that it writes is known and all counts,
lengths and times in them fit, those of a list or a map itself included; and if it is only types that are
not known, the error names the first of them in the order of writing, a plain type by its number and a
named one by its name. -/
theorem writers_fail_for_the_value_only :
    (∀ tag v,
      (∃ expected actual, (encodeAs r f tag v).toExcept = .error (.typeMismatch expected actual)) ↔
        r.knows tag = true ∧ v.tag ≠ tag) ∧
    (∀ v, FailsForValues r f True [v] (encode r f v)) ∧
    (∀ v, FailsForValues r f True [v] (encodePayload r f v)) ∧
    (∀ items : List Value,
      FailsForValues r f (items.length ≤ maxLength) items (encodeList r f items)) ∧
    ∀ fields : Fields,
      FailsForValues r f (fields.length ≤ maxLength ∧ ∀ e ∈ fields, Utf16Fits (some e.1))
        (fields.map (·.2)) (encodeFields r f fields) := by
  refine ⟨encodeAs_mismatch_iff r f, fun v => fails_of_stop_eq rfl,
    fun v => fails_of_stop_eq (stop_encodePayload r f v), fun items => ?_, fun fields => ?_⟩
  · have written : encodeList r f items = payload r f (.list items) := by
      rw [encodeList, payload]
    rw [written]
    exact fails_payload (.list items)
  · have written : encodeFields r f fields = payload r f (.map fields) := by
      rw [encodeFields, payload]
    rw [written]
    exact fails_payload (.map fields)

def mixed : Value := list [list [int 7, networkId ⟨1⟩], bool true]

/-- With lists and ints known only, the network id is the first that is refused. -/
theorem networkId_refused_first :
    (∀ part ∈ [mixed].flatMap parts, part.ownFits .none) ∧
      (encode (.ofTags [.plain .list, .plain .int]) .none mixed).toExcept =
        .error (.unknownNamedType "NetworkId") := by
  have fits : ∀ part ∈ [mixed].flatMap parts, part.ownFits .none := by
    simp [mixed, parts, partsOfItems, ownFits, maxLength]
  obtain ⟨-, boxed, -⟩ :=
    writers_fail_for_the_value_only (.ofTags [.plain .list, .plain .int]) .none
  exact ⟨fits, (boxed mixed).first trivial fits [mixed, list [int 7, networkId ⟨1⟩], int 7]
    (networkId ⟨1⟩) [bool true] rfl (by decide) (by decide)⟩

end Value
end Datastream
