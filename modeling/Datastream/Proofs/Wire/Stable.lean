import Datastream.Proofs.Wire.Decoded

/-!
# Decoding is stable

Not every byte string that decodes is one that would be written: readers are lenient, and replace or
drop what means nothing. But the value that comes out can be written, and from what is written then
the same value comes out, with nothing left over (`decoders_settle`). Bytes up to 64 MiB are so few
that no length can outgrow its field on the way.
-/
namespace Datastream.Value

open Wire

/-- What is read from the bytes can be written, and is all that is read from what is written. -/
def Settles {α : Type} (read : Reader α) (write : α → Output) (b : Bytes) : Prop :=
  ∀ v rest, read b = .ok v rest → ∃ again, (write v).toExcept = .ok again ∧ read again = .ok v []

theorem Settles.of_yields {α : Type} {read : Reader α} {write : α → Output} {P : Nat → α → Prop}
    {b : Bytes} (yields : Yields read P)
    (back : ∀ n v, n ≤ b.length → P n v → (write v).stop = none ∧ (write v).ReadBy read v) :
    Settles read write b := by
  intro v rest run
  obtain ⟨n, taken, holds⟩ := yields b v rest run
  obtain ⟨unstopped, readBy⟩ := back n v (by omega) holds
  have again := readBy unstopped []
  rw [List.append_nil] at again
  exact ⟨(write v).bytes, (Output.toExcept_eq_ok_iff _ _).mpr ⟨unstopped, rfl⟩, again⟩

section

variable {r : Registry} {f : FeatureSet} {b : Bytes} (small : 3 * b.length ≤ maxLength)

include small

theorem settles_box (levels : Nat) : Settles (readBox f r levels) (encode r f) b := by
  refine .of_yields (yields_box r f levels) fun n v taken decoded => ?_
  exact ⟨decoded.stop_encode (by omega), decoded.readBy⟩

theorem settles_list : Settles (decodeList r f) (encodeList r f) b := by
  have yields := yields_list (yields_box r f (maxDepth + 1)) Decoded.mono Decoded.paid
  refine .of_yields yields fun n items taken read => ⟨?_, ?_⟩
  · rw [stop_encodeList]
    exact ⟨by omega, fun v member => (read.2 v member).stop_encode (by omega)⟩
  · exact readBy_encodeList r fun v member => (read.2 v member).carried

theorem settles_fields : Settles (decodeFields r f) (encodeFields r f) b := by
  have yields := yields_fields (yields_box r f (maxDepth + 1)) Decoded.mono Decoded.paid
  refine .of_yields yields fun n fields taken ⟨sorted, few, read⟩ => ⟨?_, ?_⟩
  · rw [encodeFields, stop_count_append, stop_entries, List.forall_mem_map]
    refine ⟨by omega, fun e member text same => ?_, fun e member => ?_⟩
    · obtain rfl := Option.mem_some.mp same
      exact Nat.le_trans (read e member).1 (by omega)
    · exact (read e member).2.stop_encode (by omega)
  · have values : ∀ v ∈ fields.map (·.2), v.Carried f maxDepth :=
      List.forall_mem_map.mpr fun e member => (read e member).2.carried
    have same : (fields.map fun e => (e.1, e.2.normalize f)) = fields := by
      rw [← normalizeFields_eq_map, normalizeFields_eq_self_iff]
      exact fun v member => (values v member).normal
    have inside : ∀ v ∈ fields.map (·.2), (v.encode r f).ReadBy (decode r f) (v.normalize f) := by
      intro v member
      rw [(values v member).normal]
      exact (values v member).readBy r
    have whole := readBy_fields r f sorted inside
    rwa [same] at whole

/-- A payload is written under the type by which it was read. -/
theorem settles_payload (tag : Tag) : Settles (decodePayload r f tag) (encodePayload r f) b := by
  cases known : r.knows tag with
  | false =>
    have refused : decodePayload r f tag = throw (Registry.unknown tag) := by
      rw [decodePayload, Registry.lookup, known]
      rfl
    rw [refused]
    intro v rest run
    exact absurd run Reader.throw_ne_ok
  | true =>
    have read : decodePayload r f tag = readPayload f (decodeAt r f 1) tag := by
      rw [decodePayload, (r.lookup_eq_ok_iff tag).mpr known]
    have yields := yields_payload (f := f) (yields_box r f maxDepth) Decoded.mono Decoded.paid tag
    rw [read]
    refine .of_yields yields fun n v taken received => ?_
    have written : encodePayload r f v = payload r f v :=
      encodePayload_eq (received.tag_eq ▸ known) f
    have normal := received.normal fun child member => (received.inside child member).normal
    have ordinary := ((forall_parts_iff v).mp normal.hasOrdinaryInstants).1
    have back := readBy_payload r f v received.inOrder received.honest ordinary fun child member => by
      rw [(received.inside child member).normal]
      exact (received.inside child member).readBy
    rw [normal, received.tag_eq] at back
    rw [written, stop_payload]
    exact ⟨⟨received.fits (by omega), fun child member =>
      (received.inside child member).stop_encode (by omega)⟩, back⟩

end

/-- Whatever is decoded from at most 64 MiB can be encoded, and is what decodes from its encoding: a
boxed value, at any depth, a list, a map, and a payload under its type. -/
theorem decoders_settle (r : Registry) (f : FeatureSet) {b : Bytes} (size : b.length ≤ 67108864) :
    Settles (decode r f) (encode r f) b ∧ (∀ depth, Settles (decodeAt r f depth) (encode r f) b) ∧
      Settles (decodeList r f) (encodeList r f) b ∧ Settles (decodeFields r f) (encodeFields r f) b ∧
      ∀ tag, Settles (decodePayload r f tag) (encodePayload r f) b := by
  have small : 3 * b.length ≤ maxLength := by
    unfold maxLength
    omega
  exact ⟨settles_box small _, fun depth => settles_box small _, settles_list small,
    settles_fields small, settles_payload small⟩

/-- Half of a surrogate pair, in a text of one unit with a byte behind it. -/
def lone : Bytes := [0, 0, 0, 10, 7, 0, 0, 0, 2, 0xD8, 0, 1]

/-- It is read as U+FFFD, and settles as that. -/
theorem lone_settles : lone.length ≤ 67108864 ∧
    decode .standard .none lone = .ok (string (some "\uFFFD")) [1] ∧
      (encode .standard .none (string (some "\uFFFD"))).toExcept =
        .ok [0, 0, 0, 10, 0, 0, 0, 0, 2, 0xFF, 0xFD] ∧
      decode .standard .none [0, 0, 0, 10, 0, 0, 0, 0, 2, 0xFF, 0xFD] =
        .ok (string (some "\uFFFD")) [] := by
  have size : lone.length ≤ 67108864 := by decide
  have read : decode .standard .none lone = .ok (string (some "\uFFFD")) [1] := rfl
  have spelt : (encode .standard .none (string (some "\uFFFD"))).toExcept =
      .ok [0, 0, 0, 10, 0, 0, 0, 0, 2, 0xFF, 0xFD] := rfl
  obtain ⟨again, written, back⟩ := (decoders_settle .standard .none size).1 _ _ read
  obtain rfl := Except.ok.inj (spelt.symm.trans written)
  exact ⟨size, read, spelt, back⟩

end Datastream.Value
